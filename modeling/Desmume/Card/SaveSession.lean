/-
What a session with the NAND card is: the commands since `connect` and the save
memory that it found.

A session has no start address until a command sets one, and its memory is the
log of what was written over the contents that it found.
-/

import Desmume.Card.RetailNand

namespace Desmume.Card

open Backup BackupDevice LastWrite Run

/-- The state that the commands since `connect` lead to. -/
structure Session where
  protocol : Slot1Comp_Protocol
  rom : Option Slot1Comp_Rom
  mode : u32
  handle_save : u32
  start : Option u32
  cursor : u32
  written : List (Nat × u8)

/-- What the bus does with a card. -/
inductive SlotOp
  | command (command : GC_Command)
  | read
  | write (val : u32)
  | fakeboot

namespace Session

variable (info : CardInfo) (found : Nat → u8) (session : Session) (addr : u32)

def connected : Session where
  protocol :=
    { mode := .RAW
      operation := .op9F_Dummy
      command := fun i => if i = 0 then 0x9F else 0
      address := 0
      length := 0
      delay := 0
      chipId := info.chipID
      gameCode := info.gameCode }
  rom := none
  mode := 0
  handle_save := 0
  start := none
  cursor := 0
  written := []

def offset : u32 := (addr &&& info.mask) - info.subAdr

def seek (session : Session) : Session :=
  { session with start := some addr, cursor := offset info addr }

def seekOther (session : Session) : Session :=
  if session.start = some addr then session else session.seek info addr

def inMode (mode : u32) (session : Session) : Session := { session with mode := mode }

def startOperation (operation : eSlot1Operation) (session : Session) : Session :=
  let addr := Slot1Comp_Protocol.addressFromProtocol session.protocol.command
  let cmd := session.protocol.command 0
  if operation = .op00_ReadHeader_Unencrypted then
    { session with rom := some ⟨operation,addr⟩ }
  else if operation = .op2x_SecureAreaLoad then
    { session with rom := some ⟨operation,session.protocol.address⟩ }
  else if cmd = 0x81 then
    { (session.inMode 0x81).seekOther info addr with handle_save := 1 }
  else if cmd = 0xB2 then { (session.inMode 0xB2).seek info addr with handle_save := 1 }
  else if cmd = 0xB7 then
    if session.handle_save ≠ 0 then (session.inMode 0xB7).seekOther info addr
    else { session with rom := some ⟨operation,addr⟩ }
  else if cmd = 0x8B then { session.inMode 0x8B with handle_save := 0 }
  else if cmd = 0x84 ∨ cmd = 0x85 ∨ cmd = 0x94 then session.inMode (cmd.setWidth 32)
  else session

def command (info : CardInfo) (command : GC_Command) (session : Session) : Session :=
  let res := session.protocol.write_command info command
  let session := { session with protocol := res.1 }
  match res.2 with
  | some operation => session.startOperation info operation
  | none => session

def contents : Nat → u8 :=
  lastWritten found session.written

def readRom : u32 × Session :=
  match session.rom with
  | some rom => ((rom.read info).1, { session with rom := some (rom.read info).2 })
  | none => (0, session)

def readSave : u32 × Session :=
  (wordAt (session.contents found) session.cursor.toNat,
    { session with cursor := session.cursor + 4 })

def read : u32 × Session :=
  match session.protocol.answer with
  | some val => (val, session)
  | none =>
      let operation := session.protocol.operation
      let cmd := session.protocol.command 0
      if operation = .op00_ReadHeader_Unencrypted ∨ operation = .op2x_SecureAreaLoad then
        session.readRom info
      else if cmd = 0xB7 then
        if session.handle_save ≠ 0 then session.readSave found else session.readRom info
      else if cmd = 0x94 then (0, { session with mode := 0 })
      else if cmd = 0xD6 then (nandStatus session.mode, session)
      else (0, session)

def write (val : u32) (session : Session) : Session :=
  if session.protocol.operation = .Unknown ∧ session.protocol.command 0 = 0x81 then
    { session with
      cursor := session.cursor + 4
      written := session.written ++ wordCells session.cursor.toNat val }
  else session

def fakeboot : Session :=
  { session with protocol := { session.protocol with mode := .NORMAL } }

def step : SlotOp → Option u32 × Session
  | .command command => (none, session.command info command)
  | .read => ((session.read info found).map some id)
  | .write val => (none, session.write val)
  | .fakeboot => (none, session.fakeboot)

end Session

namespace NandSlot

def step (info : CardInfo) (slot : NandSlot) : SlotOp → Option u32 × NandSlot
  | .command command => (none, slot.write_command info command)
  | .read => ((slot.read_GCDATAIN info).map some id)
  | .write val => (none, slot.write_GCDATAIN val)
  | .fakeboot => (none, slot.post_fakeboot)

end NandSlot

/-- An operation `read` takes from the ROM component. -/
def ReadsRom (session : Session) : Prop :=
  session.protocol.operation = .op00_ReadHeader_Unencrypted ∨
    session.protocol.operation = .op2x_SecureAreaLoad ∨
    session.protocol.operation = .opB7_Read ∧ session.handle_save = 0

/-- Commands of the save area start operations in `NORMAL` mode only. -/
structure Formed (protocol : Slot1Comp_Protocol) : Prop where
  reading : protocol.operation = .opB7_Read → protocol.command 0 = 0xB7
  special : protocol.operation = .Unknown → protocol.command 0 ≠ 0xB7
  normal : protocol.operation = .opB7_Read ∨ protocol.operation = .Unknown →
    protocol.mode = .NORMAL

structure Agrees (info : CardInfo) (found : Nat → u8) (slot : NandSlot) (session : Session) :
    Prop where
  rom : ∀ rom, session.rom = some rom → slot.card.rom = rom
  mode : slot.card.mode = session.mode
  handle_save : slot.card.handle_save = session.handle_save
  start : session.start = some slot.card.save_start ∨
    session.start = none ∧ session.handle_save = 0
  cursor : slot.card.save_adr = session.cursor
  subAdr : slot.card.subAdr = info.subAdr
  sound : slot.backupDevice.Sound
  contents : slot.backupDevice.contents = session.contents found

structure Follows (info : CardInfo) (found : Nat → u8) (slot : NandSlot) (session : Session) :
    Prop extends Agrees info found slot session where
  protocol : slot.card.protocol =
    { session.protocol with address := slot.card.protocol.address }
  formed : Formed session.protocol
  ready : ReadsRom session → ∃ rom, session.rom = some rom

section

variable {info : CardInfo} {found : Nat → u8} {slot : NandSlot} {session : Session}

def Moves (info : CardInfo) (slot : NandSlot) (session : Session) (command : GC_Command) : Prop :=
  let addr := Slot1Comp_Protocol.addressFromProtocol command
  session.start = none → command 0 = 0x81 → addr = slot.card.save_start →
    Session.offset info addr = slot.card.save_adr

theorem inMode_agrees (agrees : Agrees info found slot session) (mode : u32) :
    Agrees info found { slot with card := { slot.card with mode := mode } }
      (session.inMode mode) :=
  ⟨agrees.rom,rfl,agrees.handle_save,agrees.start,agrees.cursor,agrees.subAdr,agrees.sound,
    agrees.contents⟩

theorem saving_agrees (agrees : Agrees info found slot session) (set : session.start ≠ none) :
    Agrees info found { slot with card := { slot.card with handle_save := 1 } }
      { session with handle_save := 1 } :=
  ⟨agrees.rom,agrees.mode,rfl,.inl (agrees.start.resolve_right fun unset => set unset.1),
    agrees.cursor,agrees.subAdr,agrees.sound,agrees.contents⟩

theorem seek_agrees (agrees : Agrees info found slot session) (addr : u32) :
    Agrees info found { slot with card := slot.card.seek info addr }
      (session.seek info addr) where
  rom := agrees.rom
  mode := agrees.mode
  handle_save := agrees.handle_save
  start := .inl rfl
  cursor := by
    change (addr &&& info.mask) - slot.card.subAdr = Session.offset info addr
    rw [agrees.subAdr]
    rfl
  subAdr := agrees.subAdr
  sound := agrees.sound
  contents := agrees.contents

theorem seekOther_agrees (agrees : Agrees info found slot session) {addr : u32}
    (moves : session.start = none → addr = slot.card.save_start →
      Session.offset info addr = slot.card.save_adr) :
    Agrees info found { slot with card := slot.card.seekOther info addr }
      (session.seekOther info addr) := by
  have moved := seek_agrees agrees addr
  unfold Slot1_Retail_NAND.seekOther Session.seekOther
  by_cases same : addr = slot.card.save_start
  · rw [if_neg (not_not.mpr same)]
    rcases agrees.start with set | ⟨unset,-⟩
    · rw [if_pos (by rw [set,same])]
      exact agrees
    · rw [if_neg (by rw [unset]; exact fun impossible => nomatch impossible)]
      exact ⟨agrees.rom,agrees.mode,agrees.handle_save,.inl (congrArg some same),
        (moves unset same).symm,agrees.subAdr,agrees.sound,agrees.contents⟩
  · have other : session.start ≠ some addr := by
      rcases agrees.start with set | ⟨unset,-⟩
      · rw [set]
        exact fun equal => same (Option.some.inj equal).symm
      · rw [unset]
        exact fun impossible => nomatch impossible
    rw [if_pos same,if_neg other]
    exact moved

theorem seekOther_set (addr : u32) (session : Session) :
    (session.seekOther info addr).start ≠ none := by
  unfold Session.seekOther
  split
  · next set =>
    rw [set]
    exact fun impossible => nomatch impossible
  · exact fun impossible => nomatch impossible

theorem startOperation_agrees (agrees : Agrees info found slot session)
    (same : slot.card.protocol = session.protocol) (operation : eSlot1Operation)
    (moves : operation ≠ .op00_ReadHeader_Unencrypted → operation ≠ .op2x_SecureAreaLoad →
      Moves info slot session session.protocol.command) :
    Agrees info found
      { slot with card := slot.card.slot1client_startOperation info operation }
      (session.startOperation info operation) := by
  unfold Slot1_Retail_NAND.slot1client_startOperation Session.startOperation
  dsimp only
  rw [congrArg Slot1Comp_Protocol.command same,congrArg Slot1Comp_Protocol.address same]
  by_cases header : operation = .op00_ReadHeader_Unencrypted
  · rw [if_pos header,if_pos header]
    exact ⟨fun rom set => Option.some.inj set, agrees.mode, agrees.handle_save, agrees.start,
      agrees.cursor, agrees.subAdr, agrees.sound, agrees.contents⟩
  rw [if_neg header,if_neg header]
  by_cases secure : operation = .op2x_SecureAreaLoad
  · rw [if_pos secure,if_pos secure]
    exact ⟨fun rom set => Option.some.inj set, agrees.mode, agrees.handle_save, agrees.start,
      agrees.cursor, agrees.subAdr, agrees.sound, agrees.contents⟩
  rw [if_neg secure,if_neg secure]
  have moves := moves header secure
  unfold Moves at moves
  revert moves
  generalize session.protocol.command 0 = cmd
  intro moves
  by_cases page : cmd = 0x81
  · subst page
    simp only [BitVec.reduceEq,if_true,if_false,or_false]
    exact saving_agrees (seekOther_agrees (inMode_agrees agrees 0x81)
      (fun unset => moves unset rfl)) (seekOther_set _ _)
  by_cases pos : cmd = 0xB2
  · subst pos
    simp only [BitVec.reduceEq,if_true,if_false,or_false]
    exact saving_agrees (seek_agrees (inMode_agrees agrees 0xB2) _)
      (fun impossible => nomatch impossible)
  by_cases read : cmd = 0xB7
  · subst read
    simp only [BitVec.reduceEq,if_true,if_false,or_false]
    by_cases saving : session.handle_save ≠ 0
    · rw [if_pos (by rwa [agrees.handle_save]),if_pos saving]
      have set : session.start ≠ none := fun unset =>
        saving (agrees.start.resolve_left (by rw [unset]; exact fun other => nomatch other)).2
      exact seekOther_agrees (inMode_agrees agrees 0xB7) (fun unset => absurd unset set)
    · rw [if_neg (by rwa [agrees.handle_save]),if_neg saving]
      exact ⟨fun rom set => Option.some.inj set, agrees.mode, agrees.handle_save, agrees.start,
        agrees.cursor, agrees.subAdr, agrees.sound, agrees.contents⟩
  by_cases abort : cmd = 0x8B
  · subst abort
    simp only [BitVec.reduceEq,if_true,if_false,or_false]
    refine ⟨agrees.rom,rfl,rfl,?_,agrees.cursor,agrees.subAdr,agrees.sound,
      agrees.contents⟩
    exact agrees.start.imp_right fun unset => ⟨unset.1,rfl⟩
  by_cases init : cmd = 0x94
  · subst init
    simp only [BitVec.reduceEq,if_true,if_false,or_false,or_true]
    exact inMode_agrees agrees 0x94
  simp only [page,pos,read,abort,init,if_false,or_false]
  split
  · exact inMode_agrees agrees (cmd.setWidth 32)
  · exact agrees

theorem startOperation_protocol (operation : eSlot1Operation) (session : Session) :
    (session.startOperation info operation).protocol = session.protocol := by
  have kept (addr : u32) (session : Session) :
      (session.seekOther info addr).protocol = session.protocol := by
    unfold Session.seekOther
    split <;> rfl
  unfold Session.startOperation
  dsimp only
  repeat' split
  all_goals first
    | rfl
    | exact kept _ _

theorem card_protocol (operation : eSlot1Operation) (card : Slot1_Retail_NAND) :
    (card.slot1client_startOperation info operation).protocol = card.protocol := by
  have kept (addr : u32) (card : Slot1_Retail_NAND) :
      (card.seekOther info addr).protocol = card.protocol := by
    unfold Slot1_Retail_NAND.seekOther
    split <;> rfl
  unfold Slot1_Retail_NAND.slot1client_startOperation
  dsimp only
  repeat' split
  all_goals first
    | rfl
    | exact kept _ _

theorem startOperation_ready {operation : eSlot1Operation}
    (running : session.protocol.operation = operation)
    (reading : operation = .opB7_Read → session.protocol.command 0 = 0xB7)
    (reads : ReadsRom (session.startOperation info operation)) :
    ∃ rom, (session.startOperation info operation).rom = some rom := by
  unfold ReadsRom at reads
  rw [startOperation_protocol,running] at reads
  unfold Session.startOperation at reads ⊢
  dsimp only at reads ⊢
  by_cases header : operation = .op00_ReadHeader_Unencrypted
  · rw [if_pos header]
    exact ⟨_,rfl⟩
  by_cases secure : operation = .op2x_SecureAreaLoad
  · rw [if_neg header,if_pos secure]
    exact ⟨_,rfl⟩
  obtain ⟨rom,unsaved⟩ := (reads.resolve_left header).resolve_left secure
  rw [reading rom,if_neg header,if_neg secure] at unsaved
  rw [reading rom,if_neg header,if_neg secure]
  simp only [BitVec.reduceEq,if_true,if_false] at unsaved ⊢
  by_cases saving : session.handle_save ≠ 0
  · rw [if_pos saving] at unsaved
    have kept : ((session.inMode 0xB7).seekOther info
        (Slot1Comp_Protocol.addressFromProtocol session.protocol.command)).handle_save =
        session.handle_save := by
      unfold Session.seekOther
      split <;> rfl
    exact absurd (kept.symm.trans unsaved) saving
  · rw [if_neg saving]
    exact ⟨_,rfl⟩

end

/-! ### Commands -/

section

variable {info : CardInfo} {found : Nat → u8} {slot : NandSlot} {session : Session}
  {protocol : Slot1Comp_Protocol}

theorem formed_of_other (other : protocol.operation ≠ .opB7_Read ∧ protocol.operation ≠ .Unknown) :
    Formed protocol :=
  ⟨fun same => absurd same other.1, fun same => absurd same other.2,
    fun either => absurd either (not_or.mpr other)⟩

structure Started (protocol : Slot1Comp_Protocol) (command : GC_Command)
    (next : Slot1Comp_Protocol) (operation : eSlot1Operation) : Prop where
  running : next.operation = operation
  reading : operation = .opB7_Read → command 0 = 0xB7
  formed : Formed next
  normal : operation ≠ .op00_ReadHeader_Unencrypted → operation ≠ .op2x_SecureAreaLoad →
    protocol.mode = .NORMAL

/-- The operation behind a command that starts none. -/
structure Quiet (protocol next : Slot1Comp_Protocol) : Prop where
  formed : Formed next
  rom : next.operation ≠ .opB7_Read
  header : next.operation = .op00_ReadHeader_Unencrypted ∨
    next.operation = .op2x_SecureAreaLoad → next.operation = protocol.operation

theorem write_command_command (info : CardInfo) (protocol : Slot1Comp_Protocol)
    (command : GC_Command) : (protocol.write_command info command).1.command = command := by
  unfold Slot1Comp_Protocol.write_command
  dsimp only
  split
  · unfold Slot1Comp_Protocol.write_command_RAW
    repeat' split
    all_goals rfl
  · unfold Slot1Comp_Protocol.write_command_KEY1
    dsimp only
    repeat' split
    all_goals rfl
  · unfold Slot1Comp_Protocol.write_command_NORMAL
    repeat' split
    all_goals rfl
  · rfl

def Effect (protocol : Slot1Comp_Protocol) (command : GC_Command)
    (res : Slot1Comp_Protocol × Option eSlot1Operation) : Prop :=
  match res.2 with
  | some operation => Started protocol command res.1 operation
  | none => Quiet protocol res.1

variable {next : Slot1Comp_Protocol}

theorem quiet_same (formed : Formed protocol)
    (abnormal : protocol.mode ≠ .NORMAL) (same : next.operation = protocol.operation) :
    Quiet protocol next := by
  have other : protocol.operation ≠ .opB7_Read ∧ protocol.operation ≠ .Unknown :=
    not_or.mp fun either => abnormal (formed.normal either)
  rw [← same] at other
  exact ⟨formed_of_other other,other.1,fun _ => same⟩

theorem quiet_other (other : next.operation ≠ .opB7_Read ∧ next.operation ≠ .Unknown)
    (word : next.operation ≠ .op00_ReadHeader_Unencrypted ∧
      next.operation ≠ .op2x_SecureAreaLoad) : Quiet protocol next :=
  ⟨formed_of_other other,other.1,fun either => absurd either (not_or.mpr word)⟩

theorem started_header {command : GC_Command}
    {operation : eSlot1Operation} (running : next.operation = operation)
    (header : operation = .op00_ReadHeader_Unencrypted ∨ operation = .op2x_SecureAreaLoad) :
    Started protocol command next operation := by
  have other : operation ≠ .opB7_Read ∧ operation ≠ .Unknown := by
    rcases header with rfl | rfl <;> exact ⟨nofun,nofun⟩
  have formed : Formed next := formed_of_other (by rwa [running])
  exact ⟨running,fun same => absurd same other.1, formed,
    fun plain secure => absurd header (not_or.mpr ⟨plain,secure⟩)⟩

theorem write_command_effect (info : CardInfo) (formed : Formed protocol) (command : GC_Command) :
    Effect protocol command (protocol.write_command info command) := by
  unfold Slot1Comp_Protocol.write_command
  dsimp only
  split
  · next raw =>
    have abnormal : protocol.mode ≠ .NORMAL := by
      rw [raw]
      decide
    unfold Slot1Comp_Protocol.write_command_RAW
    split
    · exact quiet_other ⟨nofun,nofun⟩ ⟨nofun,nofun⟩
    split
    · exact quiet_other ⟨nofun,nofun⟩ ⟨nofun,nofun⟩
    split
    · exact quiet_same formed abnormal rfl
    split
    · exact started_header rfl (.inl rfl)
    · exact quiet_same formed abnormal rfl
  · next key =>
    have abnormal : protocol.mode ≠ .NORMAL := by
      rw [key]
      decide
    unfold Slot1Comp_Protocol.write_command_KEY1
    dsimp only
    split
    · exact quiet_other ⟨nofun,nofun⟩ ⟨nofun,nofun⟩
    split
    · exact started_header rfl (.inr rfl)
    split
    · exact quiet_same formed abnormal rfl
    split
    · exact quiet_same formed abnormal rfl
    · exact quiet_same formed abnormal rfl
  · next normal =>
    unfold Slot1Comp_Protocol.write_command_NORMAL
    split
    · next read =>
      exact ⟨rfl,fun _ => read, ⟨fun _ => read, nofun, fun _ => normal⟩, fun _ _ => normal⟩
    · next other =>
      split
      · exact quiet_other ⟨nofun,nofun⟩ ⟨nofun,nofun⟩
      · exact ⟨rfl,nofun,⟨nofun,fun _ => other, fun _ => normal⟩,fun _ _ => normal⟩
  · next key =>
    have abnormal : protocol.mode ≠ .NORMAL := by
      rw [key]
      decide
    exact quiet_same formed abnormal rfl

theorem command_follows (follows : Follows info found slot session) (command : GC_Command)
    (moves : slot.card.protocol.mode = .NORMAL → Moves info slot session command) :
    Follows info found (slot.write_command info command) (session.command info command) := by
  have sameProtocol : slot.card.protocol.write_command info command =
      session.protocol.write_command info command := by
    rw [follows.protocol]
    rfl
  have sameMode : slot.card.protocol.mode = session.protocol.mode := by rw [follows.protocol]
  have effect := write_command_effect info follows.formed command
  have taken := write_command_command info session.protocol command
  unfold NandSlot.write_command Session.command
  rw [sameProtocol]
  revert effect taken
  generalize session.protocol.write_command info command = res
  obtain ⟨next,start⟩ := res
  intro effect taken
  cases start with
  | none =>
      obtain ⟨formed,rom,header⟩ := effect
      refine ⟨⟨follows.rom,follows.mode,follows.handle_save,follows.start,follows.cursor,
        follows.subAdr,follows.sound,follows.contents⟩,rfl,formed,?_⟩
      intro reads
      refine follows.ready ?_
      rcases reads with plain | secure | ⟨reading,-⟩
      · exact .inl ((header (.inl plain)).symm.trans plain)
      · exact .inr (.inl ((header (.inr secure)).symm.trans secure))
      · exact absurd reading rom
  | some operation =>
      obtain ⟨running,reading,formed,normal⟩ := effect
      dsimp only at taken running formed ⊢
      have agrees : Agrees info found
          { slot with card := { slot.card with protocol := next } }
          { session with protocol := next } :=
        ⟨follows.rom,follows.mode,follows.handle_save,follows.start,follows.cursor,
          follows.subAdr,follows.sound,follows.contents⟩
      have started := startOperation_agrees agrees rfl operation (by
        intro plain secure
        have here := moves (sameMode.trans (normal plain secure))
        rw [← taken] at here
        exact here)
      have kept := @startOperation_protocol info operation { session with protocol := next }
      refine ⟨started,?_,?_,?_⟩
      · rw [kept,card_protocol]
      · rw [kept]
        exact formed
      · refine startOperation_ready running ?_
        intro same
        rw [taken]
        exact reading same

end

section

variable {info : CardInfo} {found : Nat → u8} {slot : NandSlot} {session : Session}

theorem readRom_follows (follows : Follows info found slot session) (reads : ReadsRom session) :
    Follows info found (slot.readRom info).2 (session.readRom info).2 ∧
      (slot.readRom info).1 = (session.readRom info).1 := by
  obtain ⟨rom,set⟩ := follows.ready reads
  have same := follows.rom rom set
  unfold NandSlot.readRom Session.readRom
  rw [set]
  dsimp only
  rw [same]
  exact ⟨⟨⟨fun _ set => Option.some.inj set, follows.mode, follows.handle_save, follows.start,
    follows.cursor, follows.subAdr, follows.sound, follows.contents⟩,follows.protocol,
    follows.formed,fun _ => ⟨_,rfl⟩⟩,rfl⟩

theorem readSave_follows (follows : Follows info found slot session)
    (small : slot.card.save_adr.toNat + 4 < 2 ^ 31) :
    let dev := slot.backupDevice.ensure (slot.card.save_adr + 4) false
    Follows info found
        { card := { slot.card with save_adr := slot.card.save_adr + 4 }
          backupDevice := (dev.readLongAt slot.card.save_adr 0).2 }
        (session.readSave found).2 ∧
      (dev.readLongAt slot.card.save_adr 0).1 = (session.readSave found).1 := by
  have behind : (slot.card.save_adr + 4).toNat = slot.card.save_adr.toNat + 4 := by bv_omega
  obtain ⟨sound,kept,room⟩ :=
    ensure_room follows.sound (show (slot.card.save_adr + 4).toNat < 2 ^ 31 by omega)
  obtain ⟨val,sound',kept'⟩ :=
    @readLong_sound _ sound slot.card.save_adr (by omega)
  dsimp only
  refine ⟨⟨⟨follows.rom,follows.mode,follows.handle_save,follows.start,?_,follows.subAdr,
    sound',?_⟩,follows.protocol,follows.formed,follows.ready⟩,?_⟩
  · change slot.card.save_adr + 4 = session.cursor + 4
    rw [follows.cursor]
  · exact kept'.trans (kept.trans follows.contents)
  · rw [val,kept,follows.contents,follows.cursor]
    rfl

theorem operation_of_answer {protocol : Slot1Comp_Protocol} (passed : protocol.answer = none) :
    (protocol.operation = .op00_ReadHeader_Unencrypted ∨
      protocol.operation = .op2x_SecureAreaLoad) ∨
      protocol.operation = .opB7_Read ∨ protocol.operation = .Unknown := by
  unfold Slot1Comp_Protocol.answer at passed
  revert passed
  cases protocol.operation <;> simp

theorem inMode_follows (follows : Follows info found slot session) (mode : u32) :
    Follows info found { slot with card := { slot.card with mode := mode } }
      (session.inMode mode) :=
  ⟨inMode_agrees follows.toAgrees mode,follows.protocol,follows.formed,follows.ready⟩

theorem read_follows (follows : Follows info found slot session)
    (small : slot.card.protocol.operation = .opB7_Read ∧ slot.card.handle_save ≠ 0 →
      slot.card.save_adr.toNat + 4 < 2 ^ 31) :
    Follows info found (slot.read_GCDATAIN info).2 (session.read info found).2 ∧
      (slot.read_GCDATAIN info).1 = (session.read info found).1 := by
  have sameAnswer : slot.card.protocol.answer = session.protocol.answer := by
    rw [follows.protocol]
    rfl
  have sameOperation : slot.card.protocol.operation = session.protocol.operation := by
    rw [follows.protocol]
  have sameCommand : slot.card.protocol.command = session.protocol.command := by
    rw [follows.protocol]
  unfold NandSlot.read_GCDATAIN Session.read
  rw [sameAnswer]
  cases answer : session.protocol.answer with
  | some val => exact ⟨follows,rfl⟩
  | none =>
      unfold NandSlot.slot1client_read_GCDATAIN
      dsimp only
      rw [sameOperation,sameCommand]
      rw [sameOperation] at small
      by_cases word : session.protocol.operation = .op00_ReadHeader_Unencrypted ∨
          session.protocol.operation = .op2x_SecureAreaLoad
      · rw [if_pos word,if_pos word]
        exact readRom_follows follows (word.imp_right .inl)
      rw [if_neg word,if_neg word]
      have special := (operation_of_answer answer).resolve_left word
      by_cases read : session.protocol.command 0 = 0xB7
      · have reading := special.resolve_right fun other => follows.formed.special other read
        rw [if_neg (by rw [read]; decide),if_pos read,if_pos read]
        by_cases saving : session.handle_save ≠ 0
        · have saving' : slot.card.handle_save ≠ 0 := by rwa [follows.handle_save]
          rw [if_pos saving',if_pos saving]
          exact readSave_follows follows (small ⟨reading,saving'⟩)
        · rw [if_neg (by rwa [follows.handle_save]),if_neg saving]
          exact readRom_follows follows (.inr (.inr ⟨reading,not_not.mp saving⟩))
      rw [if_neg read,if_neg read]
      by_cases init : session.protocol.command 0 = 0x94
      · rw [if_pos init,if_pos init]
        exact ⟨inMode_follows follows 0,rfl⟩
      rw [if_neg init,if_neg init]
      by_cases status : session.protocol.command 0 = 0xD6
      · rw [if_pos status,if_pos status,follows.mode]
        exact ⟨follows,rfl⟩
      · rw [if_neg status,if_neg status]
        exact ⟨follows,rfl⟩

theorem write_follows (follows : Follows info found slot session) (val : u32)
    (small : slot.card.protocol.operation = .Unknown ∧ slot.card.protocol.command 0 = 0x81 →
      slot.card.save_adr.toNat + 4 < 2 ^ 31) :
    Follows info found (slot.write_GCDATAIN val) (session.write val) := by
  have sameOperation : slot.card.protocol.operation = session.protocol.operation := by
    rw [follows.protocol]
  have sameCommand : slot.card.protocol.command = session.protocol.command := by
    rw [follows.protocol]
  rw [sameOperation,sameCommand] at small
  unfold NandSlot.write_GCDATAIN NandSlot.slot1client_write_GCDATAIN Session.write
  rw [sameOperation,sameCommand]
  by_cases special : session.protocol.operation = .Unknown
  · by_cases page : session.protocol.command 0 = 0x81
    · have within := small ⟨special,page⟩
      have behind : (slot.card.save_adr + 4).toNat = slot.card.save_adr.toNat + 4 := by bv_omega
      obtain ⟨sound,kept,room⟩ :=
        ensure_room follows.sound (show (slot.card.save_adr + 4).toNat < 2 ^ 31 by omega)
      obtain ⟨sound',stored⟩ := @writeLong_sound _ sound slot.card.save_adr (by omega) val
      rw [if_pos special,if_neg (by simp),if_pos page,if_pos ⟨special,page⟩]
      refine ⟨⟨follows.rom,follows.mode,follows.handle_save,follows.start,?_,follows.subAdr,
        sound',?_⟩,follows.protocol,follows.formed,follows.ready⟩
      · change slot.card.save_adr + 4 = session.cursor + 4
        rw [follows.cursor]
      · rw [stored,kept,follows.contents,follows.cursor]
        exact (lastWritten_append found session.written _).symm
    · rw [if_pos special,if_neg (by simp),if_neg page,if_neg (fun both => page both.2)]
      exact follows
  · rw [if_neg special,if_neg (fun both => special both.1)]
    exact follows

theorem fakeboot_follows (follows : Follows info found slot session) :
    Follows info found slot.post_fakeboot session.fakeboot := by
  have protocol := follows.protocol
  refine ⟨⟨follows.rom,follows.mode,follows.handle_save,follows.start,follows.cursor,
    follows.subAdr,follows.sound,follows.contents⟩,?_,?_,follows.ready⟩
  · unfold NandSlot.post_fakeboot Session.fakeboot
    dsimp only
    rw [protocol]
  · exact ⟨follows.formed.reading,follows.formed.special,fun _ => rfl⟩

end

section

variable (info : CardInfo) (found : Nat → u8)

def sideBySide (both : NandSlot × Session) (op : SlotOp) : NandSlot × Session :=
  ((both.1.step info op).2, (both.2.step info found op).2)

def AccessesSave (slot : NandSlot) : SlotOp → Prop
  | .read => slot.card.protocol.operation = .opB7_Read ∧ slot.card.handle_save ≠ 0
  | .write _ => slot.card.protocol.operation = .Unknown ∧ slot.card.protocol.command 0 = 0x81
  | _ => False

/-- The cursor is at a word of the save area, which lies below 2 GiB. -/
def Within (both : NandSlot × Session) (op : SlotOp) : Prop :=
  AccessesSave both.1 op → both.1.card.save_adr.toNat + 4 < 2 ^ 31

/-- The first start address that a `81` sets is not the one that was left, or is
the one of the cursor. -/
def StartsAfresh (both : NandSlot × Session) (op : SlotOp) : Prop :=
  ∀ command, op = .command command → both.1.card.protocol.mode = .NORMAL →
    Moves info both.1 both.2 command

/-- The card reads what its session does, and has its cursor and its memory. -/
structure AsSession (both : NandSlot × Session) (op : SlotOp) : Prop where
  value : (both.1.step info op).1 = (both.2.step info found op).1
  cursor : (both.1.step info op).2.card.save_adr = (both.2.step info found op).2.cursor
  contents : (both.1.step info op).2.backupDevice.contents =
    (both.2.step info found op).2.contents found

variable {info found}

variable {both : NandSlot × Session}

theorem follows_step (follows : Follows info found both.1 both.2)
    {op : SlotOp} (within : Within both op) (afresh : StartsAfresh info both op) :
    Follows info found (sideBySide info found both op).1 (sideBySide info found both op).2 ∧
      (both.1.step info op).1 = (both.2.step info found op).1 := by
  cases op with
  | command command => exact ⟨command_follows follows command (afresh command rfl),rfl⟩
  | read =>
      obtain ⟨next,v⟩ := read_follows follows within
      exact ⟨next,congrArg some v⟩
  | write val => exact ⟨write_follows follows val within,rfl⟩
  | fakeboot => exact ⟨fakeboot_follows follows,rfl⟩

theorem write_command_page {protocol : Slot1Comp_Protocol} {command : GC_Command}
    (normal : protocol.mode = .NORMAL) (page : command 0 = 0x81) :
    protocol.write_command info command =
      ({ protocol with
          command := command, delay := 0, length := 0, address := 0, operation := .Unknown },
        some .Unknown) := by
  unfold Slot1Comp_Protocol.write_command
  dsimp only
  rw [normal]
  unfold Slot1Comp_Protocol.write_command_NORMAL
  rw [if_neg (by rw [page]; decide),if_neg (by rw [page]; decide)]

theorem stale_start {slot : NandSlot} {session : Session} {command : GC_Command}
    (follows : Follows info found slot session)
    (normal : slot.card.protocol.mode = .NORMAL) (unset : session.start = none)
    (page : command 0 = 0x81)
    (left : Slot1Comp_Protocol.addressFromProtocol command = slot.card.save_start) :
    (slot.write_command info command).card.save_adr = slot.card.save_adr ∧
      (session.command info command).cursor =
        Session.offset info (Slot1Comp_Protocol.addressFromProtocol command) := by
  have normal' : session.protocol.mode = .NORMAL := by
    rw [follows.protocol] at normal
    exact normal
  unfold NandSlot.write_command Session.command
  rw [write_command_page normal page,write_command_page normal' page]
  unfold Slot1_Retail_NAND.slot1client_startOperation Session.startOperation
  dsimp only
  simp only [page,left,reduceCtorEq,BitVec.reduceEq,if_true,if_false]
  unfold Slot1_Retail_NAND.seekOther Session.seekOther
  constructor
  · rw [if_neg (not_not.mpr rfl)]
  · rw [if_neg (by
      change session.start ≠ _
      rw [unset]
      exact fun impossible => nomatch impossible)]
    rfl

theorem asSession_iff (follows : Follows info found both.1 both.2)
    {op : SlotOp} (within : Within both op) :
    AsSession info found both op ↔ StartsAfresh info both op := by
  constructor
  · intro same command isCommand normal unset page left
    subst isCommand
    obtain ⟨stays,moves⟩ := stale_start follows normal unset page left
    have cursor := same.cursor
    change (both.1.write_command info command).card.save_adr =
      (both.2.command info command).cursor at cursor
    rw [stays,moves] at cursor
    exact cursor.symm
  · intro afresh
    obtain ⟨next,val⟩ := follows_step follows within afresh
    exact ⟨val,next.cursor,next.contents⟩

theorem connected_contents (found : Nat → u8) :
    (Session.connected info).contents found = found := by
  unfold Session.contents Session.connected
  dsimp only
  exact lastWritten_nil found

theorem connect_backupDevice (slot : NandSlot) :
    (slot.connect info).backupDevice = slot.backupDevice := by
  unfold NandSlot.connect
  rfl

theorem connected_follows {slot : NandSlot} (sound : slot.backupDevice.Sound) :
    Follows info slot.backupDevice.contents (slot.connect info) (Session.connected info) where
  rom := fun _ set => nomatch set
  mode := rfl
  handle_save := rfl
  start := .inr ⟨rfl,rfl⟩
  cursor := rfl
  subAdr := rfl
  sound := by
    rw [connect_backupDevice]
    exact sound
  contents := by
    rw [connected_contents,connect_backupDevice]
  protocol := rfl
  formed := formed_of_other ⟨nofun,nofun⟩
  ready := by
    intro reads
    rcases reads with plain | secure | ⟨reading,-⟩
    · exact nomatch plain
    · exact nomatch secure
    · exact nomatch reading

/-- From whatever an earlier session left, the card behaves as the session since
`connect` does exactly when the first start address that a `81` sets is not the
one that was left, unless the cursor is there. -/
theorem nand_session_iff (info : CardInfo) (slot : NandSlot) (sound : slot.backupDevice.Sound)
    (ops : List SlotOp) (within : Guarded (sideBySide info slot.backupDevice.contents) Within
      (slot.connect info, Session.connected info) ops) :
    Guarded (sideBySide info slot.backupDevice.contents) (AsSession info slot.backupDevice.contents)
        (slot.connect info, Session.connected info) ops ↔
      Guarded (sideBySide info slot.backupDevice.contents) (StartsAfresh info)
        (slot.connect info, Session.connected info) ops := by
  have start : Follows info slot.backupDevice.contents (slot.connect info)
      (Session.connected info) := connected_follows sound
  have both := @guarded_iff_guarded _ _ (sideBySide info slot.backupDevice.contents)
    (fun both => Follows info slot.backupDevice.contents both.1 both.2)
    (fun both op => Within both op ∧ AsSession info slot.backupDevice.contents both op)
    (fun both op => Within both op ∧ StartsAfresh info both op)
    (fun both op follows => and_congr_right fun within => asSession_iff follows within)
    (fun both op follows allowed => (follows_step follows allowed.1 allowed.2).1)
    (slot.connect info, Session.connected info) start ops
  rw [guarded_and,guarded_and] at both
  exact (and_iff_right within).symm.trans (both.trans (and_iff_right within))

end

/-! ### Two sessions -/

def nandInfo : CardInfo where
  mask := 0xFFFFFF
  subArea := 0x70
  readROM _ := 0
  secureArea _ := 0
  chipID := 0
  gameCode := 0
  decrypt _ command := command

def emptySave : BackupDevice where
  fpMC := ⟨.memory,[],0⟩
  fsize := 0
  info := ⟨0,0,0,0,0⟩
  isMovieMode := false
  uninitializedValue := 0xFF
  write_enable := false
  reset_command_state := false
  com := 0
  addr_size := 0
  addr_counter := 0
  addr := 0
  write_protect := 0
  data_autodetect := []
  state := .DETECTING

def newSlot : NandSlot where
  card :=
    { subAdr := 0
      protocol := (Session.connected nandInfo).protocol
      rom := ⟨.op00_ReadHeader_Unencrypted,0⟩
      mode := 0
      handle_save := 0
      save_start := 0
      save_adr := 0 }
  backupDevice := emptySave

def writePage : GC_Command := ![0x81,0x00,0xE2,0x00,0x00,0x00,0x00,0x00]

def readPage : GC_Command := ![0xB7,0x00,0xE2,0x00,0x00,0x00,0x00,0x00]

theorem emptySave_sound : emptySave.Sound := ⟨⟨Nat.le_refl 0,by decide⟩,rfl⟩

theorem nand_session_iff_new :
    newSlot.backupDevice.Sound ∧
      (Guarded (sideBySide nandInfo newSlot.backupDevice.contents)
          (AsSession nandInfo newSlot.backupDevice.contents)
          (newSlot.connect nandInfo, Session.connected nandInfo)
          [.fakeboot,.command writePage,.write 0x12345678,.command readPage,.read] ↔
        Guarded (sideBySide nandInfo newSlot.backupDevice.contents) (StartsAfresh nandInfo)
          (newSlot.connect nandInfo, Session.connected nandInfo)
          [.fakeboot,.command writePage,.write 0x12345678,.command readPage,.read]) :=
  ⟨emptySave_sound,nand_session_iff nandInfo newSlot emptySave_sound _
    ⟨fun _ => by decide +kernel, fun _ => by decide +kernel, fun _ => by decide +kernel,
      fun _ => by decide +kernel, fun _ => by decide +kernel, trivial⟩⟩

def usedSlot : NandSlot :=
  ((newSlot.connect nandInfo).post_fakeboot).write_command nandInfo writePage

/-- The next session that begins with that page writes at the start of the save. -/
theorem nand_session_stale :
    ¬Guarded (sideBySide nandInfo usedSlot.backupDevice.contents)
      (AsSession nandInfo usedSlot.backupDevice.contents)
      (usedSlot.connect nandInfo, Session.connected nandInfo)
      [.fakeboot,.command writePage] := by
  intro guarded
  have cursor := guarded.2.1.cursor
  exact absurd cursor (by decide +kernel)

end Desmume.Card
