/-
Packed geometry commands: `GXF_Hardware::receive`.

A word given to the command port is a packed word of up to four command bytes or
an argument of a command unpacked before it.
-/

import Desmume.Fifo.GxChannel

namespace Desmume.Gxf

def GFX_NOARG_COMMAND : u8 := 0x00

def GFX_INVALID_COMMAND : u8 := 0xFF

def GFX_UNDEFINED_COMMAND : u8 := 0xCC

def gfx3d_commandTypes : List u8 :=
  [0xFF,0xFF,0xFF,0xFF,0xFF,0xFF,0xFF,0xFF,0xFF,0xFF,0xFF,0xFF,0xFF,0xFF,0xFF,0xFF,
    0x01,0x00,0x01,0x01,0x01,0x00,0x10,0x0C,0x10,0x0C,0x09,0x03,0x03,0xCC,0xCC,0xCC,
    0x01,0x01,0x01,0x02,0x01,0x01,0x01,0x01,0x01,0x01,0x01,0x01,0xCC,0xCC,0xCC,0xCC,
    0x01,0x01,0x01,0x01,0x20,0xCC,0xCC,0xCC,0xCC,0xCC,0xCC,0xCC,0xCC,0xCC,0xCC,0xCC,
    0x01,0x00,0xCC,0xCC,0xCC,0xCC,0xCC,0xCC,0xCC,0xCC,0xCC,0xCC,0xCC,0xCC,0xCC,0xCC,
    0x01,0xCC,0xCC,0xCC,0xCC,0xCC,0xCC,0xCC,0xCC,0xCC,0xCC,0xCC,0xCC,0xCC,0xCC,0xCC,
    0x01,0xCC,0xCC,0xCC,0xCC,0xCC,0xCC,0xCC,0xCC,0xCC,0xCC,0xCC,0xCC,0xCC,0xCC,0xCC,
    0x03,0x02,0x01,0xCC,0xCC,0xCC,0xCC,0xCC,0xCC,0xCC,0xCC,0xCC,0xCC,0xCC,0xCC,0xCC] ++
  List.replicate 0x80 0xCC

def commandType (cmd : u8) : u8 := gfx3d_commandTypes.getD cmd.toNat GFX_INVALID_COMMAND

/-- The arguments of a call of `GFX_FIFOsend`. -/
abbrev Sent := u8 × u32

structure GXF_Hardware where
  shiftCommand : u32
  paramCounter : u32

def GXF_Hardware.reset : GXF_Hardware :=
  { shiftCommand := 0, paramCounter := 0 }

def GXF_Hardware.currCommand (hw : GXF_Hardware) : u8 := (hw.shiftCommand &&& 0xFF).setWidth 8

def GXF_Hardware.shift (hw : GXF_Hardware) : GXF_Hardware :=
  { hw with shiftCommand := hw.shiftCommand >>> 8 }

/-- The `for (;;)` of `receive`, with a bound on its iterations. -/
def GXF_Hardware.analyze : Nat → GXF_Hardware → Option (GXF_Hardware × List Sent)
  | 0, _ => none
  | fuel + 1, hw =>
      let currCommandType := commandType hw.currCommand
      if currCommandType = GFX_UNDEFINED_COMMAND then hw.shift.analyze fuel
      else if currCommandType = GFX_NOARG_COMMAND then
        (hw.shift.analyze fuel).map fun (next, sent) => (next, (hw.currCommand, 0) :: sent)
      else if currCommandType = GFX_INVALID_COMMAND then some (hw, [])
      else some ({ hw with paramCounter := currCommandType.setWidth 32 }, [])

def GXF_Hardware.receive (fuel : Nat) (hw : GXF_Hardware) (val : u32) :
    Option (GXF_Hardware × List Sent) :=
  let currCommand := hw.currCommand
  let hw := if commandType currCommand = GFX_INVALID_COMMAND then { hw with shiftCommand := val }
    else hw
  if hw.paramCounter > 0 then
    let hw := { hw with paramCounter := hw.paramCounter - 1 }
    if hw.paramCounter ≤ 0 then
      (hw.shift.analyze fuel).map fun (next, sent) => (next, (currCommand, val) :: sent)
    else some (hw, [(currCommand, val)])
  else hw.analyze fuel

def GXF_Hardware.receiveAll (fuel : Nat) (hw : GXF_Hardware) :
    List u32 → Option (GXF_Hardware × List Sent)
  | [] => some (hw, [])
  | val :: rest => do
      let (next, sent) ← hw.receive fuel val
      let (last, later) ← next.receiveAll fuel rest
      some (last, sent ++ later)

def arguments : Nat → Option Nat
  | 0x11 | 0x15 | 0x41 => some 0
  | 0x10 | 0x12 | 0x13 | 0x14 | 0x20 | 0x21 | 0x22 | 0x24 | 0x25 | 0x26 | 0x27 | 0x28 | 0x29
  | 0x2A | 0x2B | 0x30 | 0x31 | 0x32 | 0x33 | 0x40 | 0x50 | 0x60 | 0x72 => some 1
  | 0x23 | 0x71 => some 2
  | 0x1B | 0x1C | 0x70 => some 3
  | 0x1A => some 9
  | 0x17 | 0x19 => some 12
  | 0x16 | 0x18 => some 16
  | 0x34 => some 32
  | _ => none

inductive Kind
  | ends
  | undefined
  | command (arguments : Nat)
  deriving DecidableEq

def kind (byte : u8) : Kind :=
  if byte.toNat < 0x10 then .ends
  else
    match arguments byte.toNat with
    | none => .undefined
    | some n => .command n

def packedBytes (word : u32) : List u8 :=
  [word.setWidth 8,(word >>> 8).setWidth 8,(word >>> 16).setWidth 8,(word >>> 24).setWidth 8]

/-- What the words mean after the bytes left of the last packed word. -/
def parse : List u8 → List u32 → List Sent
  | [], [] => []
  | [], word :: words => parse (packedBytes word) words
  | byte :: packed, words =>
      match kind byte with
      | .ends => parse [] words
      | .undefined => parse packed words
      | .command 0 => (byte, 0) :: parse packed words
      | .command (more + 1) =>
          (words.take (more + 1)).map (fun word => (byte, word)) ++
            if words.length < more + 1 then [] else parse packed (words.drop (more + 1))
  termination_by packed words => (words.length, packed.length)
  decreasing_by
    all_goals simp_wf
    all_goals grind

def Kind.type : Kind → u8
  | .ends => GFX_INVALID_COMMAND
  | .undefined => GFX_UNDEFINED_COMMAND
  | .command n => BitVec.ofNat 8 n

private theorem table_kinds :
    gfx3d_commandTypes = (List.range 256).map fun byte => (kind (BitVec.ofNat 8 byte)).type := by
  decide +kernel

theorem commandType_kind (byte : u8) : commandType byte = (kind byte).type := by
  have inside : byte.toNat < 256 := byte.isLt
  rw [commandType,table_kinds,List.getD_eq_getElem?_getD,List.getElem?_map,
    List.getElem?_range inside,Option.map_some,Option.getD_some,BitVec.ofNat_toNat,
    BitVec.setWidth_eq]

theorem arguments_le {byte : u8} {n : Nat} (known : kind byte = .command n) : n ≤ 32 := by
  unfold kind at known
  split at known
  · contradiction
  · unfold arguments at known
    split at known
    · contradiction
    · next listed =>
      cases known
      split at listed <;> cases listed <;> decide

theorem packedBytes_cons (hw : GXF_Hardware) :
    packedBytes hw.shiftCommand = hw.currCommand :: (packedBytes hw.shiftCommand).tail := by
  have current : hw.currCommand = hw.shiftCommand.setWidth 8 := by
    apply BitVec.eq_of_toNat_eq
    change (hw.shiftCommand.toNat &&& (2 ^ 8 - 1)) % 2 ^ 8 = hw.shiftCommand.toNat % 2 ^ 8
    rw [Nat.and_two_pow_sub_one_eq_mod,Nat.mod_mod]
  rw [current]
  rfl

theorem packedBytes_shift (hw : GXF_Hardware) :
    packedBytes hw.shift.shiftCommand = (packedBytes hw.shiftCommand).tail ++ [0] := by
  unfold packedBytes GXF_Hardware.shift
  simp only [List.tail_cons,List.cons_append,List.nil_append,List.cons.injEq,and_true]
  refine ⟨trivial,?_,?_,?_⟩
  · bv_omega
  · bv_omega
  · bv_omega

theorem parse_zero (packed : List u8) (words : List u32) :
    parse (packed ++ [0]) words = parse packed words := by
  induction packed generalizing words with
  | nil =>
      rw [List.nil_append,parse]
      rfl
  | cons byte packed ih =>
      rw [List.cons_append,parse,parse]
      cases kind byte with
      | ends => rfl
      | undefined => exact ih words
      | command n =>
          cases n with
          | zero => exact congrArg _ (ih words)
          | succ more => simp only [ih]

theorem parse_shift (hw : GXF_Hardware) (words : List u32) :
    parse (packedBytes hw.shift.shiftCommand) words =
      parse (packedBytes hw.shiftCommand).tail words := by
  rw [packedBytes_shift,parse_zero]

/-- Either no argument is outstanding and the next word is a packed word, or
some of the arguments of the current command are. -/
inductive Pending (hw : GXF_Hardware) : Prop
  | idle (none : hw.paramCounter = 0) (invalid : kind hw.currCommand = .ends)
  | counting (total : Nat) (current : kind hw.currCommand = .command total)
      (outstanding : 1 ≤ hw.paramCounter.toNat) (within : hw.paramCounter.toNat ≤ total)

def GXF_Hardware.rest (hw : GXF_Hardware) (words : List u32) : List Sent :=
  if hw.paramCounter = 0 then parse [] words
  else
    (words.take hw.paramCounter.toNat).map (fun word => (hw.currCommand, word)) ++
      if words.length < hw.paramCounter.toNat then []
      else parse (packedBytes hw.shiftCommand).tail (words.drop hw.paramCounter.toNat)

/-- A call returns, leaves a pending state, and has sent what the reference
sends before it goes on from that state. -/
def Answers (res : Option (GXF_Hardware × List Sent)) (expected : List u32 → List Sent) : Prop :=
  ∃ next sent, res = some (next, sent) ∧ Pending next ∧
    ∀ words, expected words = sent ++ next.rest words

theorem Answers.sending {res : Option (GXF_Hardware × List Sent)}
    {expected : List u32 → List Sent} (answers : Answers res expected) (first : Sent) :
    Answers (res.map fun (next, sent) => (next, first :: sent))
      (fun words => first :: expected words) := by
  obtain ⟨next,sent,returned,pending,exact_rest⟩ := answers
  refine ⟨next,first :: sent,?_,pending,?_⟩
  · rw [returned]
    rfl
  · intro words
    exact congrArg (first :: ·) (exact_rest words)

theorem commandType_command {byte : u8} {n : Nat} (known : kind byte = .command n) :
    (commandType byte).toNat = n ∧ commandType byte ≠ GFX_UNDEFINED_COMMAND ∧
      commandType byte ≠ GFX_INVALID_COMMAND ∧
      (commandType byte = GFX_NOARG_COMMAND ↔ n = 0) := by
  have small := arguments_le known
  rw [commandType_kind,known]
  unfold Kind.type GFX_UNDEFINED_COMMAND GFX_INVALID_COMMAND GFX_NOARG_COMMAND
  refine ⟨?_,?_,?_,?_⟩
  · bv_omega
  · bv_omega
  · bv_omega
  · bv_omega

variable {hw : GXF_Hardware} {fuel : Nat}

theorem shift_short (short : hw.shiftCommand.toNat < 2 ^ (8 * (fuel + 1))) :
    hw.shift.shiftCommand.toNat < 2 ^ (8 * fuel) := by
  change (hw.shiftCommand >>> 8).toNat < 2 ^ (8 * fuel)
  rw [BitVec.toNat_ushiftRight,Nat.shiftRight_eq_div_pow]
  apply Nat.div_lt_of_lt_mul
  rwa [← Nat.pow_add,Nat.add_comm,← Nat.mul_succ]

theorem analyze_ends (fuel : Nat) (idle : hw.paramCounter = 0)
    (known : kind hw.currCommand = .ends) :
    Answers (hw.analyze (fuel + 1)) (parse (packedBytes hw.shiftCommand)) := by
  have type : commandType hw.currCommand = GFX_INVALID_COMMAND := by
    rw [commandType_kind,known]
    rfl
  refine ⟨hw,[],?_,.idle idle known,?_⟩
  · rw [GXF_Hardware.analyze,type]
    rfl
  · intro words
    rw [packedBytes_cons,parse,known,GXF_Hardware.rest,if_pos idle]
    rfl

theorem analyze_undefined (known : kind hw.currCommand = .undefined)
    (next : Answers (hw.shift.analyze fuel) (parse (packedBytes hw.shift.shiftCommand))) :
    Answers (hw.analyze (fuel + 1)) (parse (packedBytes hw.shiftCommand)) := by
  have type : commandType hw.currCommand = GFX_UNDEFINED_COMMAND := by
    rw [commandType_kind,known]
    rfl
  have same (words : List u32) : parse (packedBytes hw.shiftCommand) words =
      parse (packedBytes hw.shift.shiftCommand) words := by
    rw [parse_shift,packedBytes_cons,parse,known]
    rfl
  rw [GXF_Hardware.analyze,if_pos type,funext same]
  exact next

theorem analyze_noarg (known : kind hw.currCommand = .command 0)
    (next : Answers (hw.shift.analyze fuel) (parse (packedBytes hw.shift.shiftCommand))) :
    Answers (hw.analyze (fuel + 1)) (parse (packedBytes hw.shiftCommand)) := by
  obtain ⟨-,defined,-,noarg⟩ := commandType_command known
  have same (words : List u32) : parse (packedBytes hw.shiftCommand) words =
      (hw.currCommand, 0) :: parse (packedBytes hw.shift.shiftCommand) words := by
    rw [parse_shift,packedBytes_cons,parse,known]
    rfl
  rw [GXF_Hardware.analyze,if_neg defined,if_pos (noarg.mpr rfl),funext same]
  exact next.sending _

theorem analyze_command (fuel : Nat) {more : Nat}
    (known : kind hw.currCommand = .command (more + 1)) :
    Answers (hw.analyze (fuel + 1)) (parse (packedBytes hw.shiftCommand)) := by
  obtain ⟨total,defined,valid,noarg⟩ := commandType_command known
  have small := arguments_le known
  have hasArguments : commandType hw.currCommand ≠ GFX_NOARG_COMMAND :=
    fun none => nomatch noarg.mp none
  have counter : ((commandType hw.currCommand).setWidth 32).toNat = more + 1 := by
    bv_omega
  let next : GXF_Hardware := { hw with paramCounter := (commandType hw.currCommand).setWidth 32 }
  have total : next.paramCounter.toNat = more + 1 := counter
  have outstanding : 1 ≤ next.paramCounter.toNat := by
    omega
  have within : next.paramCounter.toNat ≤ more + 1 := by
    omega
  have busy : next.paramCounter ≠ 0 := by
    bv_omega
  refine ⟨next,[],?_,.counting (more + 1) known outstanding within,?_⟩
  · rw [GXF_Hardware.analyze,if_neg defined,if_neg hasArguments,if_neg valid]
  · intro words
    rw [packedBytes_cons,parse,known,GXF_Hardware.rest,if_neg busy,counter]
    rfl

theorem analyze_answers (fuel : Nat) (hw : GXF_Hardware) (idle : hw.paramCounter = 0)
    (short : hw.shiftCommand.toNat < 2 ^ (8 * fuel)) :
    Answers (hw.analyze (fuel + 1)) (parse (packedBytes hw.shiftCommand)) := by
  induction fuel generalizing hw with
  | zero =>
      have empty : hw.shiftCommand = 0 := by
        bv_omega
      have ends : kind hw.currCommand = .ends := by
        rw [GXF_Hardware.currCommand,empty]
        rfl
      exact analyze_ends 0 idle ends
  | succ fuel ih =>
      have next := ih hw.shift idle (shift_short short)
      cases known : kind hw.currCommand with
      | ends => exact analyze_ends _ idle known
      | undefined => exact analyze_undefined known next
      | command n =>
          cases n with
          | zero => exact analyze_noarg known next
          | succ more => exact analyze_command _ known

def iterations : Nat := 5

variable (extra : Nat)

theorem analyze_word (hw : GXF_Hardware) (idle : hw.paramCounter = 0) :
    Answers (hw.analyze (iterations + extra)) (parse (packedBytes hw.shiftCommand)) := by
  have enough : iterations + extra = 4 + extra + 1 := by
    unfold iterations
    omega
  have short : hw.shiftCommand.toNat < 2 ^ (8 * (4 + extra)) :=
    hw.shiftCommand.isLt.trans_le (Nat.pow_le_pow_right (by omega) (by omega))
  rw [enough]
  exact analyze_answers _ hw idle short

theorem receive_answers (pending : Pending hw) (val : u32) :
    Answers (hw.receive (iterations + extra) val) (fun words => hw.rest (val :: words)) := by
  cases pending with
  | idle none invalid =>
      have type : commandType hw.currCommand = GFX_INVALID_COMMAND := by
        rw [commandType_kind,invalid]
        rfl
      have loaded := analyze_word extra { hw with shiftCommand := val } none
      have same (words : List u32) : hw.rest (val :: words) = parse (packedBytes val) words := by
        rw [GXF_Hardware.rest,if_pos none,parse]
      rw [GXF_Hardware.receive,if_pos type,none,if_neg (by decide),funext same]
      rw [none] at loaded
      exact loaded
  | counting total current outstanding within =>
      obtain ⟨-,-,valid,-⟩ := commandType_command current
      have busy : hw.paramCounter ≠ 0 := by
        bv_omega
      have some : hw.paramCounter > 0 := by
        bv_omega
      rw [GXF_Hardware.receive,if_neg valid,if_pos some]
      let less : GXF_Hardware := { hw with paramCounter := hw.paramCounter - 1 }
      have counter : less.paramCounter.toNat = hw.paramCounter.toNat - 1 := by
        change (hw.paramCounter - 1).toNat = _
        bv_omega
      by_cases last : less.paramCounter ≤ 0
      · have one : hw.paramCounter.toNat = 1 := by
          bv_omega
        have done : less.paramCounter = 0 := by
          bv_omega
        have next := (analyze_word extra less.shift done).sending (hw.currCommand, val)
        have same (words : List u32) : hw.rest (val :: words) =
            (hw.currCommand, val) :: parse (packedBytes less.shift.shiftCommand) words := by
          rw [GXF_Hardware.rest,if_neg busy,one,parse_shift,if_neg (by simp)]
          rfl
        rw [if_pos last,funext same]
        exact next
      · have same (words : List u32) : hw.rest (val :: words) =
            (hw.currCommand, val) :: less.rest words := by
          have more : hw.paramCounter.toNat = less.paramCounter.toNat + 1 := by
            omega
          have lessBusy : less.paramCounter ≠ 0 := by
            bv_omega
          rw [GXF_Hardware.rest,if_neg busy,more,GXF_Hardware.rest,if_neg lessBusy]
          simp only [List.take_succ_cons,List.map_cons,List.length_cons,Nat.add_lt_add_iff_right,
            List.drop_succ_cons,List.cons_append]
          rfl
        rw [if_neg last,funext same]
        refine ⟨less,[(hw.currCommand, val)],rfl,?_,fun words => rfl⟩
        refine .counting total current ?_ ?_
        · bv_omega
        · bv_omega

/-! ### Runs -/

theorem rest_nil (pending : Pending hw) : hw.rest [] = [] := by
  cases pending with
  | idle none invalid => rw [GXF_Hardware.rest,if_pos none,parse]
  | counting total current outstanding within =>
      have busy : hw.paramCounter ≠ 0 := by
        bv_omega
      rw [GXF_Hardware.rest,if_neg busy,List.take_nil,List.map_nil,List.nil_append]
      exact if_pos outstanding

theorem receiveAll_rest (pending : Pending hw) (words : List u32) :
    ∃ last, hw.receiveAll (iterations + extra) words = some (last, hw.rest words) ∧
      Pending last := by
  induction words generalizing hw with
  | nil =>
      rw [rest_nil pending]
      exact ⟨hw,rfl,pending⟩
  | cons val words ih =>
      obtain ⟨next,sent,returned,nextPending,exact_rest⟩ :=
        receive_answers extra pending val
      obtain ⟨last,later,lastPending⟩ := ih nextPending
      have goesOn : hw.rest (val :: words) = sent ++ next.rest words := exact_rest words
      refine ⟨last,?_,lastPending⟩
      rw [GXF_Hardware.receiveAll,returned,goesOn]
      simp only [Option.bind_eq_bind,Option.bind_some,later]

theorem pending_reset : Pending GXF_Hardware.reset :=
  .idle rfl rfl

/-- From reset and for every sequence of words: every call returns, within
five iterations of its loop; what it sends is what the reference parser reads;
and between calls the state is pending. -/
theorem receive_parses (words : List u32) :
    ∃ last, GXF_Hardware.reset.receiveAll (iterations + extra) words =
        some (last, parse [] words) ∧
      Pending last :=
  receiveAll_rest extra pending_reset words

example : (GXF_Hardware.reset.receiveAll iterations [0x00151110,0,0x00171012]).map (·.2) =
    some [(0x10, 0),(0x11, 0),(0x15, 0)] := by decide

inductive PortOp
  | gfx3d_sendCommandToFIFO (val : u32)
  | GFX_PIPErecv

def PortOp.word : PortOp → Option u32
  | .gfx3d_sendCommandToFIFO val => some val
  | .GFX_PIPErecv => none

/-- What the FIFO is asked to do in a run of the port. -/
def transfers (fuel : Nat) : GXF_Hardware → List PortOp → Option (List Gx.Transfer)
  | _, [] => some []
  | hw, .gfx3d_sendCommandToFIFO val :: rest => do
      let (next, sent) ← hw.receive fuel val
      let later ← transfers fuel next rest
      some ((sent.map fun call => .send call.1 call.2) ++ later)
  | hw, .GFX_PIPErecv :: rest => do
      let later ← transfers fuel hw rest
      some (.recv :: later)

def sentBy : Gx.Transfer → Option Sent
  | .send cmd param => some (cmd, param)
  | .recv => none

theorem sentBy_sends (sent : List Sent) :
    (sent.map fun call => Gx.Transfer.send call.1 call.2).filterMap sentBy = sent := by
  rw [List.filterMap_map]
  exact List.filterMap_some

theorem transfers_rest (pending : Pending hw) (ops : List PortOp) :
    ∃ asked, transfers (iterations + extra) hw ops = some asked ∧
      asked.filterMap sentBy = hw.rest (ops.filterMap PortOp.word) := by
  induction ops generalizing hw with
  | nil => exact ⟨[],rfl,(rest_nil pending).symm⟩
  | cons op ops ih =>
      cases op with
      | gfx3d_sendCommandToFIFO val =>
          obtain ⟨next,sent,returned,nextPending,goesOn⟩ := receive_answers extra pending val
          obtain ⟨later,asked,same⟩ := ih nextPending
          refine ⟨(sent.map fun call => .send call.1 call.2) ++ later,?_,?_⟩
          · simp only [transfers,returned,Option.bind_eq_bind,Option.bind_some,asked]
          rw [List.filterMap_append,sentBy_sends,same]
          exact (goesOn _).symm
      | GFX_PIPErecv =>
          obtain ⟨later,asked,same⟩ := ih pending
          refine ⟨.recv :: later,?_,same⟩
          simp only [transfers,Option.bind_eq_bind,Option.bind_some,asked]

theorem sent_run (asked : List Gx.Transfer) (run : Gx.State × List Gx.Event) :
    Gx.sent (Run.final (Run.traced Gx.transfer) run asked).2 =
      Gx.sent run.2 ++ asked.filterMap sentBy := by
  induction asked generalizing run with
  | nil => exact (List.append_nil _).symm
  | cons op rest ih =>
      rw [Run.final_cons,ih]
      cases op with
      | send cmd param =>
          rw [Run.traced_snd,Gx.transfer,Gx.sent_snoc_sent,List.append_assoc]
          rfl
      | recv =>
          rw [Run.traced_snd,Gx.transfer]
          cases (Gx.GFX_PIPErecv run.1).2 with
          | none => exact congrArg (Gx.sent · ++ _) (List.append_nil run.2)
          | some cmd => exact congrArg (· ++ _) (Gx.sent_snoc_received run.2 cmd)

/-- Over any words written to the port and any receives between them, the commands that come
out are the first that the reference parser reads in those words, and the ring holds the rest,
as long as no send finds the ring full. -/
theorem port_commands_in_order (before : Gx.State) (ops : List PortOp) :
    ∃ asked, transfers (iterations + extra) GXF_Hardware.reset ops = some asked ∧
      (Run.Guarded (Run.traced Gx.transfer) Gx.Room (Gx.GFX_FIFOclear before, []) asked →
        let run := Run.final (Run.traced Gx.transfer) (Gx.GFX_FIFOclear before, []) asked
        parse [] (ops.filterMap PortOp.word) =
          Gx.received run.2 ++ run.1.gxFIFO.ring.items Gx.HACK_GXIFO_SIZE) := by
  obtain ⟨asked,returned,same⟩ := transfers_rest extra pending_reset ops
  refine ⟨asked,returned,fun room => ?_⟩
  dsimp only
  obtain ⟨queue,queued⟩ :=
    (Run.always_of_guarded Gx.queued_step ⟨[],Gx.queued_clear before⟩ room).last
  have sent := sent_run asked (Gx.GFX_FIFOclear before, [])
  rw [same,queued.split] at sent
  rw [queued.holds.items_eq]
  exact sent.symm

end Desmume.Gxf
