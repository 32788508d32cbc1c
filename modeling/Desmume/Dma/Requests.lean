/-
DMA requests and the transfers that answer them.

A control write that enables an immediate transfer with a nonzero count is a
request for one block move.
-/

import Desmume.Dma.Controller

namespace Desmume.Dma

inductive Event
  | control (asks : Option Transfer)
  | moved (transfer : Transfer)
  | cleared
  deriving DecidableEq

def asks (dma : DmaController) (val : u32) : Option Transfer :=
  if (val >>> 16).getLsbD 15 = true ∧
      latchedMode dma.procnum dma.chan (startmodeBits dma.procnum val) = .Immediate ∧
      val &&& 0x1FFFFF ≠ 0 then
    some
      { units := (val &&& 0x1FFFFF).toNat
        src := dma.saddr_user
        dst := dma.daddr_user }
  else none

def notice (dma : DmaController) : Access → List Event
  | .ctrl size adr val => [.control (asks dma (merged (read32 dma) size adr val))]
  | _ => []

variable (nds_timer : Nat) (run : DmaController × List Event)

def noted (dma : DmaController) (op : Access) : DmaController × List Event :=
  (access nds_timer dma op, notice dma op)

def execEvents (dma : DmaController) (env : Env) : List Event :=
  if ends (arrive dma) then
    if ¬dma.repeatMode ∧ dma.enable then [.cleared] else []
  else
    match copying dma env with
    | none => []
    | some next =>
        .moved (transfer next env) ::
          (Run.logged (noted env.nds_timer) (frameEnd next env) env.nested).2

inductive Request
  | access (nds_timer : Nat) (op : Access)
  | exec (env : Env)

/-- The sequencer runs `exec` when the event of the channel is due. -/
def sequence (dma : DmaController) : Request → DmaController × List Event
  | .access nds_timer op => noted nds_timer dma op
  | .exec env =>
      if dma.dmaCheck = true ∧ env.nds_timer ≥ dma.nextEvent then
        (exec dma env, execEvents dma env)
      else (dma, [])

structure Ledger where
  awaited : Option Transfer
  moved : List Transfer
  honoured : Bool

def Ledger.settled (ledger : Ledger) : Bool :=
  match ledger.awaited with
  | none => true
  | some asked => decide (ledger.moved = [asked])

def Ledger.note (ledger : Ledger) : Event → Ledger
  | .control asks =>
      { awaited := asks, moved := [], honoured := ledger.honoured && ledger.settled }
  | .moved transfer => { ledger with moved := ledger.moved ++ [transfer] }
  | .cleared => { awaited := none, moved := [], honoured := ledger.honoured && ledger.settled }

def Ledger.empty : Ledger := { awaited := none, moved := [], honoured := true }

def ledger (log : List Event) : Ledger := log.foldl Ledger.note Ledger.empty

/-- A request has been scheduled and `exec` has yet to start its copy. -/
def Unserved (dma : DmaController) : Prop :=
  dma.dmaCheck = true ∧ dma.enable = true ∧
    latchedMode dma.procnum dma.chan dma._startmode = .Immediate ∧ dma.wordcount ≠ 0 ∧
    (dma.running = true → dma.startmode = .GXFifo)

/-- The channel is free to take a request: nothing but a geometry transfer is
running, and the write will schedule it. -/
def Free (dma : DmaController) : Prop :=
  (dma.running = true → dma.startmode = .GXFifo) ∧
    (doNotStart dma = true → dma.dmaCheck = true)

instance (dma : DmaController) : Decidable (Unserved dma) :=
  inferInstanceAs (Decidable (_ ∧ _))

instance (dma : DmaController) : Decidable (Free dma) :=
  inferInstanceAs (Decidable (_ ∧ _))

/-- `triggerDma` is called with every start condition but immediate. -/
def Signal : Access → Prop
  | .trigger mode => mode ≠ .Immediate
  | _ => True

def NoRequest (dma : DmaController) : Access → Prop
  | .ctrl size adr val => asks dma (merged (read32 dma) size adr val) = none
  | op => Signal op

def Orderly : Request → Prop
  | .access _ (.ctrl size adr val) =>
      ¬Unserved run.1 ∧
        (asks run.1 (merged (read32 run.1) size adr val) ≠ none → Free run.1)
  | .access _ op => Signal op
  | .exec env => ∀ next ∈ copying run.1 env,
      Run.Guarded (access env.nds_timer) NoRequest (frameEnd next env) env.nested

theorem setControl_kept (dma : DmaController) (val : u32) :
    (setControl dma val).procnum = dma.procnum ∧ (setControl dma val).chan = dma.chan ∧
      (setControl dma val).startmode = dma.startmode ∧
      (setControl dma val).running = dma.running ∧
      (setControl dma val).dmaCheck = dma.dmaCheck ∧
      (setControl dma val)._startmode = startmodeBits dma.procnum val ∧
      (setControl dma val).enable = (val >>> 16).getLsbD 15 := by
  simp only [setControl]
  split <;> split <;> exact ⟨rfl,rfl,rfl,rfl,rfl,rfl,rfl⟩

theorem setControl_addresses (dma : DmaController) (val : u32)
    (enabled : (val >>> 16).getLsbD 15 = true) :
    (setControl dma val).saddr = dma.saddr_user ∧
      (setControl dma val).daddr = dma.daddr_user := by
  simp only [setControl,enabled]
  split <;> exact ⟨rfl,rfl⟩

theorem write32_dmaCheck (dma : DmaController) (nds_timer : Nat) (val : u32)
    (scheduled : doNotStart dma = true → dma.dmaCheck = true) :
    (write32 dma nds_timer val).dmaCheck = true := by
  unfold write32
  split
  · rfl
  · rename_i blocked
    obtain ⟨-,-,-,-,kept,-,-⟩ := setControl_kept dma val
    exact kept.trans (scheduled (not_not.mp blocked))

theorem write32_eq (dma : DmaController) (nds_timer : Nat) (val : u32) :
    write32 dma nds_timer val = setControl dma val ∨
      write32 dma nds_timer val = doSchedule (setControl dma val) nds_timer := by
  unfold write32
  split
  · exact Or.inr rfl
  · exact Or.inl rfl

theorem access_running (dma : DmaController) (op : Access) :
    (access nds_timer dma op).running = dma.running := by
  cases op with
  | sad size adr val => rfl
  | dad size adr val => rfl
  | ctrl size adr val =>
      obtain ⟨-,-,-,running,-⟩ := setControl_kept dma (merged (read32 dma) size adr val)
      rcases write32_eq dma nds_timer (merged (read32 dma) size adr val) with same | scheduled
      · simp only [access,same]
        exact running
      · simp only [access,scheduled]
        exact running
  | trigger mode =>
      simp only [access,tryTrigger]
      split
      · rfl
      · split
        · rfl
        · split <;> rfl

structure Pending (dma : DmaController) (asked : Transfer) : Prop where
  dmaCheck : dma.dmaCheck = true
  enable : dma.enable = true
  immediate : latchedMode dma.procnum dma.chan dma._startmode = .Immediate
  count : dma.wordcount ≠ 0
  fits : dma.wordcount ≤ 0x1FFFFF
  units : asked.units = dma.wordcount.toNat
  src : dma.saddr = asked.src
  dst : dma.daddr = asked.dst
  free : dma.running = true → dma.startmode = .GXFifo

structure Serving (dma : DmaController) : Prop where
  startmode : dma.startmode = .Immediate
  quiet : dma.running = true ∨ dma.dmaCheck = false

inductive Stage (dma : DmaController) (ledger : Ledger) : Prop
  | idle (none : ledger.awaited = none)
  | pending (asked : Transfer) (awaited : ledger.awaited = some asked)
      (moved : ledger.moved = []) (pending : Pending dma asked)
  | serving (asked : Transfer) (awaited : ledger.awaited = some asked)
      (moved : ledger.moved = [asked]) (serving : Serving dma)

structure Kept (dma : DmaController) (ledger : Ledger) : Prop where
  honoured : ledger.honoured = true
  stage : Stage dma ledger

theorem Ledger.settled_of_none {ledger : Ledger} (none : ledger.awaited = none) :
    ledger.settled = true := by
  unfold Ledger.settled
  rw [none]

variable {asked : Transfer} {env : Env} {next : DmaController}

theorem Ledger.settled_of_served {ledger : Ledger}
    (awaited : ledger.awaited = some asked) (moved : ledger.moved = [asked]) :
    ledger.settled = true := by
  unfold Ledger.settled
  rw [awaited]
  exact decide_eq_true moved

variable {dma : DmaController}

theorem Pending.unserved (pending : Pending dma asked) : Unserved dma :=
  ⟨pending.dmaCheck,pending.enable,pending.immediate,pending.count,pending.free⟩

theorem Kept.settled {ledger : Ledger} (kept : Kept dma ledger)
    (served : ¬Unserved dma) : ledger.settled = true := by
  cases kept.stage with
  | idle none => exact Ledger.settled_of_none none
  | pending asked awaited moved pending => exact absurd pending.unserved served
  | serving asked awaited moved serving => exact Ledger.settled_of_served awaited moved

theorem asks_cases (dma : DmaController) (val : u32) :
    asks dma val = none ∨
      (asks dma val = some
          { units := (val &&& 0x1FFFFF).toNat
            src := dma.saddr_user
            dst := dma.daddr_user } ∧
        (val >>> 16).getLsbD 15 = true ∧
        latchedMode dma.procnum dma.chan (startmodeBits dma.procnum val) = .Immediate ∧
        val &&& 0x1FFFFF ≠ 0) := by
  unfold asks
  split
  · rename_i request
    exact Or.inr ⟨rfl,request⟩
  · exact Or.inl rfl

theorem pending_write32 {val : u32} (request : asks dma val = some asked) (free : Free dma) :
    Pending (write32 dma nds_timer val) asked := by
  rcases asks_cases dma val with none | ⟨some,enabled,immediate,nonzero⟩
  · rw [none] at request
    cases request
  · rw [some] at request
    cases request
    obtain ⟨procnum,chan,startmode,running,-,bits,enable⟩ := setControl_kept dma val
    obtain ⟨saddr,daddr⟩ := setControl_addresses dma val enabled
    have n := wordcount_setControl dma val
    have dmaCheck := write32_dmaCheck dma nds_timer val free.2
    have masked : val &&& 0x1FFFFF ≤ 0x1FFFFF := by
      change (val &&& 0x1FFFFF).toNat ≤ _
      rw [BitVec.toNat_and]
      exact Nat.and_le_right
    have set : latchedMode (setControl dma val).procnum (setControl dma val).chan
        (setControl dma val)._startmode = .Immediate := by
      rw [procnum,chan,bits]
      exact immediate
    have taken : (setControl dma val).running = true →
        (setControl dma val).startmode = .GXFifo := by
      rw [running,startmode]
      exact free.1
    rcases write32_eq dma nds_timer val with same | scheduled
    · rw [same] at dmaCheck ⊢
      exact ⟨dmaCheck,enable.trans enabled,set,n ▸ nonzero,n ▸ masked,
        n ▸ rfl,saddr,daddr,taken⟩
    · rw [scheduled]
      exact ⟨rfl,enable.trans enabled,set,n ▸ nonzero,n ▸ masked,
        n ▸ rfl,saddr,daddr,taken⟩

theorem Kept.ctrl {ledger : Ledger} (kept : Kept dma ledger)
    (nds_timer : Nat) (size : Size) (adr val : u32) (served : ¬Unserved dma)
    (free : asks dma (merged (read32 dma) size adr val) ≠ none → Free dma) :
    Kept (access nds_timer dma (.ctrl size adr val))
      (ledger.note (.control (asks dma (merged (read32 dma) size adr val)))) := by
  constructor
  · change (ledger.honoured && ledger.settled) = true
    rw [kept.honoured,kept.settled served]
    rfl
  · cases request : asks dma (merged (read32 dma) size adr val) with
    | none => exact .idle rfl
    | some asked =>
        have taken := free (by rw [request]; exact Option.some_ne_none asked)
        exact .pending asked rfl rfl (pending_write32 nds_timer request taken)

theorem Pending.tryTrigger {asked : Transfer}
    (pending : Pending dma asked) (nds_timer : Nat) (mode : EDMAMode) :
    Pending (tryTrigger dma nds_timer mode) asked := by
  unfold Dma.tryTrigger
  split
  · exact pending
  · split
    · exact pending
    · split
      · exact pending
      · exact ⟨rfl,pending.enable,pending.immediate,pending.count,pending.fits,
          pending.units,pending.src,pending.dst,pending.free⟩

theorem tryTrigger_immediate (immediate : dma.startmode = .Immediate)
    (nds_timer : Nat) {mode : EDMAMode} (signal : mode ≠ .Immediate) :
    tryTrigger dma nds_timer mode = dma := by
  unfold tryTrigger
  rw [if_pos]
  rw [immediate]
  exact signal.symm

theorem Kept.other {ledger : Ledger} (kept : Kept dma ledger)
    (nds_timer : Nat) (op : Access) (signal : Signal op)
    (notCtrl : ∀ size adr val, op ≠ .ctrl size adr val) :
    Kept (access nds_timer dma op) ledger := by
  refine ⟨kept.honoured,?_⟩
  cases kept.stage with
  | idle none => exact .idle none
  | pending asked awaited moved pending =>
      apply Stage.pending asked awaited moved
      cases op with
      | sad size adr val =>
          exact ⟨pending.dmaCheck,pending.enable,pending.immediate,pending.count,
            pending.fits,pending.units,pending.src,pending.dst,pending.free⟩
      | dad size adr val =>
          exact ⟨pending.dmaCheck,pending.enable,pending.immediate,pending.count,
            pending.fits,pending.units,pending.src,pending.dst,pending.free⟩
      | ctrl size adr val => exact absurd rfl (notCtrl size adr val)
      | trigger mode => exact pending.tryTrigger nds_timer mode
  | serving asked awaited moved serving =>
      apply Stage.serving asked awaited moved
      cases op with
      | sad size adr val => exact ⟨serving.startmode,serving.quiet⟩
      | dad size adr val => exact ⟨serving.startmode,serving.quiet⟩
      | ctrl size adr val => exact absurd rfl (notCtrl size adr val)
      | trigger mode =>
          change Serving (Dma.tryTrigger dma nds_timer mode)
          rw [tryTrigger_immediate serving.startmode nds_timer signal]
          exact serving

/-! ### A copy and what it does to its own channel -/

structure Calm (dma : DmaController) (ledger : Ledger) : Prop where
  honoured : ledger.honoured = true
  answered : ledger.awaited = none ∨
    (∃ asked, ledger.awaited = some asked ∧ ledger.moved = [asked] ∧
      dma.startmode = .Immediate)

theorem Calm.settled {ledger : Ledger} (calm : Calm dma ledger) : ledger.settled = true := by
  rcases calm.answered with none | ⟨asked,awaited,moved,-⟩
  · exact Ledger.settled_of_none none
  · exact Ledger.settled_of_served awaited moved

theorem Calm.same {dma : DmaController} {ledger : Ledger} (calm : Calm dma ledger)
    (startmode : next.startmode = dma.startmode) : Calm next ledger := by
  refine ⟨calm.honoured,?_⟩
  rcases calm.answered with none | ⟨asked,awaited,moved,immediate⟩
  · exact Or.inl none
  · exact Or.inr ⟨asked,awaited,moved,startmode.trans immediate⟩

theorem Calm.access {ledger : Ledger} (calm : Calm dma ledger)
    (nds_timer : Nat) (op : Access) (none : NoRequest dma op) :
    Calm (access nds_timer dma op) ((notice dma op).foldl Ledger.note ledger) := by
  have startmode := access_startmode nds_timer dma op
  cases op with
  | sad size adr val => exact calm.same startmode
  | dad size adr val => exact calm.same startmode
  | trigger mode => exact calm.same startmode
  | ctrl size adr val =>
      have closed : asks dma (merged (read32 dma) size adr val) = .none := none
      simp only [notice,closed,List.foldl_cons,List.foldl_nil]
      refine ⟨?_,Or.inl rfl⟩
      change (ledger.honoured && ledger.settled) = true
      rw [calm.honoured,calm.settled]
      rfl

theorem Calm.nested {ledger : Ledger} (calm : Calm dma ledger)
    (nds_timer : Nat) (accesses : List Access)
    (quiet : Run.Guarded (Dma.access nds_timer) NoRequest dma accesses) :
    Calm (accesses.foldl (Dma.access nds_timer) dma)
      ((Run.logged (noted nds_timer) dma accesses).2.foldl Ledger.note ledger) := by
  induction accesses generalizing dma ledger with
  | nil => exact calm
  | cons op rest ih =>
      simp only [Run.logged,List.foldl_append,List.foldl_cons]
      exact ih (calm.access nds_timer op quiet.1) quiet.2

theorem doCopy_running (dma : DmaController) (env : Env) :
    (doCopy dma env).running = (copied dma env).running ∧
      (doCopy dma env).startmode = (copied dma env).startmode := by
  have freezes (dma : DmaController) :
      (freeze dma).running = dma.running ∧ (freeze dma).startmode = dma.startmode := by
    unfold freeze
    split <;> exact ⟨rfl,rfl⟩
  have writes (dma : DmaController) (src dst : u32) :
      (writeBack dma src dst).running = dma.running ∧
        (writeBack dma src dst).startmode = dma.startmode := by
    simp only [writeBack]
    split <;> exact ⟨rfl,rfl⟩
  have counts (dma : DmaController) (todo : u32) :
      (countDown dma todo).running = dma.running ∧
        (countDown dma todo).startmode = dma.startmode := by
    unfold countDown
    split
    · split <;> exact ⟨rfl,rfl⟩
    · exact ⟨rfl,rfl⟩
  simp only [doCopy]
  constructor
  · rw [(counts _ _).1,(writes _ _ _).1,(freezes _).1]
    rfl
  · rw [(counts _ _).2,(writes _ _ _).2,(freezes _).2]
    rfl

theorem copied_running (dma : DmaController) (env : Env) :
    (copied dma env).running = dma.running := by
  have nested (accesses : List Access) (dma : DmaController) :
      (accesses.foldl (access env.nds_timer) dma).running = dma.running :=
    Run.observe_final DmaController.running
      (fun op _listed dma => access_running env.nds_timer dma op) dma
  unfold copied
  rw [nested]
  unfold frameEnd
  split <;> rfl

theorem Calm.doCopy {ledger : Ledger} (env : Env)
    (calm : Calm dma ledger) (running : dma.running = true)
    (quiet : Run.Guarded (Dma.access env.nds_timer) NoRequest (frameEnd dma env) env.nested) :
    Kept (doCopy dma env) ((Run.logged (noted env.nds_timer) (frameEnd dma env)
      env.nested).2.foldl Ledger.note ledger) := by
  have framed : Calm (frameEnd dma env) ledger := by
    apply calm.same
    unfold frameEnd
    split <;> rfl
  have after := framed.nested env.nds_timer env.nested quiet
  obtain ⟨runs,mode⟩ := doCopy_running dma env
  have still := runs.trans ((copied_running dma env).trans running)
  refine ⟨after.honoured,?_⟩
  rcases after.answered with none | ⟨asked,awaited,moved,immediate⟩
  · exact .idle none
  · exact .serving asked awaited moved ⟨mode.trans immediate,Or.inl still⟩

theorem start_running (begun : (start dma env).2 = true) : (start dma env).1.running = true := by
  unfold start at begun ⊢
  cases enabled : dma.enable with
  | false =>
      simp only [enabled,Bool.false_eq_true,if_false] at begun
  | true =>
      cases triggered : (scan (latch dma) env).triggered with
      | false =>
          simp only [enabled,triggered,Bool.false_eq_true,if_false,if_true] at begun
      | true => simp only [if_true,triggered]

theorem copying_spec {dma : DmaController} (copies : copying dma env = some next) :
    exec dma env = doCopy next env ∧ next.running = true ∧ ends (arrive dma) = false := by
  unfold copying at copies
  unfold exec
  cases ended : ends (arrive dma) with
  | true =>
      simp only [ended,if_true] at copies
      cases copies
  | false =>
      simp only [ended,Bool.false_eq_true,if_false] at copies ⊢
      cases copied : (start (pauseRunning (arrive dma)) env).2 with
      | false =>
          simp only [copied,Bool.false_eq_true,if_false] at copies
          cases copies
      | true =>
          simp only [copied,if_true] at copies ⊢
          cases copies
          exact ⟨rfl,start_running copied,trivial⟩

theorem arrive_kept (dma : DmaController) :
    (pauseRunning (arrive dma)).procnum = dma.procnum ∧
      (pauseRunning (arrive dma)).chan = dma.chan ∧
      (pauseRunning (arrive dma))._startmode = dma._startmode ∧
      (pauseRunning (arrive dma)).enable = dma.enable ∧
      (pauseRunning (arrive dma)).wordcount = dma.wordcount ∧
      (pauseRunning (arrive dma)).saddr = dma.saddr ∧
      (pauseRunning (arrive dma)).daddr = dma.daddr := by
  unfold pauseRunning
  simp only [arrive]
  split <;> split <;> exact ⟨rfl,rfl,rfl,rfl,rfl,rfl,rfl⟩

theorem ends_arrive (dma : DmaController) : ends (arrive dma) = ends dma := by
  unfold ends
  simp only [arrive]
  split <;> rfl

theorem copying_immediate (env : Env) (enable : dma.enable = true)
    (immediate : latchedMode dma.procnum dma.chan dma._startmode = .Immediate)
    (free : ends dma = false) :
    ∃ next, copying dma env = some next ∧ next.startmode = .Immediate ∧
      next.wordcount = dma.wordcount ∧ next.saddr = dma.saddr ∧ next.daddr = dma.daddr := by
  obtain ⟨procnum,chan,bits,enabled,n,src,dst⟩ := arrive_kept dma
  have latched : latchedMode (pauseRunning (arrive dma)).procnum
      (pauseRunning (arrive dma)).chan (pauseRunning (arrive dma))._startmode = .Immediate := by
    rw [procnum,chan,bits]
    exact immediate
  have started : start (pauseRunning (arrive dma)) env =
      ({ pauseRunning (arrive dma) with
          startmode := .Immediate
          triggered := true
          running := true
          paused := false }, true) := by
    unfold start latch
    rw [if_pos (enabled.trans enable),latched]
    rfl
  have copies : copying dma env = some
      { pauseRunning (arrive dma) with
        startmode := .Immediate
        triggered := true
        running := true
        paused := false } := by
    simp only [copying,ends_arrive,free,started,Bool.false_eq_true,if_false,if_true]
  exact ⟨_,copies,rfl,n,src,dst⟩

theorem transfer_immediate (env : Env)
    (immediate : dma.startmode = .Immediate) (n : dma.wordcount ≠ 0)
    (fits : dma.wordcount ≤ 0x1FFFFF) :
    transfer dma env =
      { units := dma.wordcount.toNat, src := dma.saddr, dst := dma.daddr } := by
  have counted : ¬(dma.procnum = .ARMCPU_ARM9 ∧ dma.wordcount = 0) :=
    fun both => n both.2
  have amount : todo dma env = dma.wordcount := by
    simp only [todo,if_neg counted,immediate,reduceCtorEq,if_false]
  have positive : dma.wordcount.toInt.toNat = dma.wordcount.toNat := by
    rw [BitVec.toInt_eq_toNat_of_lt (by bv_omega)]
    rfl
  unfold transfer
  rw [amount,positive]

theorem doStop_kept (dma : DmaController) :
    (doStop dma).running = false ∧ (doStop dma).dmaCheck = dma.dmaCheck ∧
      (doStop dma).startmode = dma.startmode := by
  unfold doStop
  cases dma.irq with
  | true => exact ⟨rfl,rfl,rfl⟩
  | false => exact ⟨rfl,rfl,rfl⟩

theorem execEvents_end (ended : ends (arrive dma) = true) (ledger : Ledger) :
    (execEvents dma env).foldl Ledger.note ledger = ledger ∨
      (execEvents dma env).foldl Ledger.note ledger = ledger.note .cleared := by
  unfold execEvents
  rw [if_pos ended]
  split
  · exact Or.inr rfl
  · exact Or.inl rfl

theorem Kept.execEnd {ledger : Ledger} (kept : Kept dma ledger)
    (env : Env) (settled : ledger.settled = true) (ended : ends (arrive dma) = true)
    (immediate : ledger.awaited = none ∨ dma.startmode = .Immediate) :
    Kept (exec dma env) ((execEvents dma env).foldl Ledger.note ledger) := by
  obtain ⟨running,dmaCheck,startmode⟩ := doStop_kept (arrive dma)
  have stopped : exec dma env = doStop (arrive dma) := by
    simp only [exec,ended,if_true]
  have arrived : (arrive dma).dmaCheck = false ∧ (arrive dma).startmode = dma.startmode := by
    unfold arrive
    cases dma.procnum with
    | ARMCPU_ARM9 => exact ⟨rfl,rfl⟩
    | ARMCPU_ARM7 => exact ⟨rfl,rfl⟩
  rcases execEvents_end ended ledger with same | closed
  · rw [same,stopped]
    refine ⟨kept.honoured,?_⟩
    rcases immediate with none | immediate
    · exact .idle none
    · have serving : Serving (doStop (arrive dma)) :=
        ⟨startmode.trans (arrived.2.trans immediate),Or.inr (dmaCheck.trans arrived.1)⟩
      cases awaited : ledger.awaited with
      | none => exact .idle awaited
      | some asked =>
          have moved : ledger.moved = [asked] := by
            unfold Ledger.settled at settled
            rw [awaited] at settled
            exact of_decide_eq_true settled
          exact .serving asked awaited moved serving
  · rw [closed,stopped]
    refine ⟨?_,.idle rfl⟩
    change (ledger.honoured && ledger.settled) = true
    rw [kept.honoured,settled]
    rfl

theorem Kept.exec {ledger : Ledger} (kept : Kept dma ledger) (env : Env) (due : dma.dmaCheck = true)
    (quiet : ∀ next ∈ copying dma env,
      Run.Guarded (access env.nds_timer) NoRequest (frameEnd next env) env.nested) :
    Kept (exec dma env) ((execEvents dma env).foldl Ledger.note ledger) := by
  cases kept.stage with
  | idle none =>
      cases ended : ends (arrive dma) with
      | true => exact kept.execEnd env (Ledger.settled_of_none none) ended (Or.inl none)
      | false =>
          cases copies : copying dma env with
          | none =>
              have events : execEvents dma env = [] := by
                simp only [execEvents,ended,copies,Bool.false_eq_true,if_false]
              rw [events]
              exact ⟨kept.honoured,.idle none⟩
          | some next =>
              obtain ⟨copy,running,-⟩ := copying_spec copies
              have events : execEvents dma env = .moved (transfer next env) ::
                  (Run.logged (noted env.nds_timer) (frameEnd next env) env.nested).2 := by
                simp only [execEvents,ended,copies,Bool.false_eq_true,if_false]
              have calm : Calm next (ledger.note (.moved (transfer next env))) :=
                ⟨kept.honoured,Or.inl none⟩
              rw [events,copy]
              exact calm.doCopy env running (quiet next copies)
  | pending asked awaited moved pending =>
      have free : ends dma = false := by
        apply decide_eq_false
        rintro ⟨running,words⟩
        apply words
        have n := pending.count
        exact ⟨pending.free running,by bv_omega⟩
      obtain ⟨next,copies,immediate,n,src,dst⟩ :=
        copying_immediate env pending.enable pending.immediate free
      obtain ⟨copy,running,ended⟩ := copying_spec copies
      have events : execEvents dma env = .moved (transfer next env) ::
          (Run.logged (noted env.nds_timer) (frameEnd next env) env.nested).2 := by
        simp only [execEvents,ended,copies,Bool.false_eq_true,if_false]
      have answer : transfer next env = asked := by
        rw [transfer_immediate env immediate (n ▸ pending.count) (n ▸ pending.fits),
          n,src,dst,← pending.units,pending.src,pending.dst]
      have calm : Calm next (ledger.note (.moved (transfer next env))) := by
        refine ⟨kept.honoured,Or.inr ⟨asked,awaited,?_,immediate⟩⟩
        change ledger.moved ++ [transfer next env] = [asked]
        rw [moved,answer]
        rfl
      rw [events,copy]
      exact calm.doCopy env running (quiet next copies)
  | serving asked awaited moved serving =>
      have running : dma.running = true := by
        rcases serving.quiet with running | quiet
        · exact running
        · rw [due] at quiet
          cases quiet
      have ended : ends (arrive dma) = true := by
        rw [ends_arrive]
        apply decide_eq_true
        refine ⟨running,?_⟩
        rintro ⟨geo,-⟩
        rw [serving.startmode] at geo
        cases geo
      exact kept.execEnd env (Ledger.settled_of_served awaited moved) ended
        (Or.inr serving.startmode)

theorem ledger_append (log events : List Event) :
    ledger (log ++ events) = events.foldl Ledger.note (ledger log) :=
  List.foldl_append

theorem kept_step (op : Request) (kept : Kept run.1 (ledger run.2)) (orderly : Orderly run op) :
    Kept (Run.traced sequence run op).1 (ledger (Run.traced sequence run op).2) := by
  rw [Run.traced_fst,Run.traced_snd,ledger_append]
  cases op with
  | access nds_timer op =>
      cases op with
      | ctrl size adr val => exact kept.ctrl nds_timer size adr val orderly.1 orderly.2
      | sad size adr val =>
          exact kept.other nds_timer (.sad size adr val) trivial (by intro _ _ _ same; cases same)
      | dad size adr val =>
          exact kept.other nds_timer (.dad size adr val) trivial (by intro _ _ _ same; cases same)
      | trigger mode =>
          exact kept.other nds_timer (.trigger mode) orderly (by intro _ _ _ same; cases same)
  | exec env =>
      simp only [sequence]
      split
      · rename_i due
        exact kept.exec env due.1 orderly
      · exact kept

def Env.quiet (time_elapsed : Nat) : Env :=
  { nds_timer := nds_timer
    VCount := 0
    gxFIFO_size := 0
    transfer_count := 0
    time_elapsed := time_elapsed
    nested := [] }

end Desmume.Dma
