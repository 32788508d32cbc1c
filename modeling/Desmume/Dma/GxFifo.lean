/-
A geometry transfer from its start to its stop.

Every event of the channel copies at most 112 units and leaves the channel
running; the next event pauses it and copies on when the FIFO is low, or waits
for the trigger that `GXF_FIFO_handleEvents` raises.
-/

import Desmume.Dma.Requests

namespace Desmume.Dma

/-- What happens around a geometry transfer. `raised` are the triggers during the
copy. -/
inductive GxOp
  | exec (env : Env) (raised : List EDMAMode)
  | trigger (nds_timer : Nat) (mode : EDMAMode)
  | handleEvents (nds_timer : Nat) (gxFIFO_size : u32)

inductive CopyEvent
  | chunk (transfer : Transfer)
  | stop
  deriving DecidableEq

def Env.raising (env : Env) (raised : List EDMAMode) : Env :=
  { env with nested := raised.map .trigger }

/-- What `GXF_FIFO_handleEvents` does to this channel. -/
def GXF_FIFO_handleEvents (dma : DmaController) (nds_timer : Nat) (gxFIFO_size : u32) :
    DmaController :=
  if gxFIFO_size ≤ 127 then tryTrigger dma nds_timer .GXFifo else dma

def copyEvents (dma : DmaController) (env : Env) : List CopyEvent :=
  if ends (arrive dma) then [.stop]
  else
    match copying dma env with
    | none => []
    | some next => [.chunk (transfer next env)]

def gxStep (dma : DmaController) : GxOp → DmaController × List CopyEvent
  | .exec env raised => (exec dma (env.raising raised), copyEvents dma (env.raising raised))
  | .trigger nds_timer mode => (tryTrigger dma nds_timer mode, [])
  | .handleEvents nds_timer gxFIFO_size => (GXF_FIFO_handleEvents dma nds_timer gxFIFO_size, [])

/-- The source addresses the loop of `doCopy` reads. -/
def sources (srcinc : u32) (transfer : Transfer) : List u32 :=
  (List.range transfer.units).map fun i => transfer.src + srcinc * BitVec.ofNat 32 i

def DmaController.srcinc (dma : DmaController) : u32 := dma.sar.srcinc dma.bitWidth.sz

def lowEvents (ops : List GxOp) : Nat :=
  ops.countP fun op =>
    match op with
    | .exec env _ => decide (env.gxFIFO_size ≤ 127)
    | _ => false

structure Settings where
  procnum : Proc
  chan : Fin 4
  bitWidth : EDMABitWidth
  sar : EDMASourceUpdate
  enable : Bool
  irq : Bool
  repeatMode : Bool
  _startmode : BitVec 3
  reg_IF_bits : u32
  deriving DecidableEq

def settings (dma : DmaController) : Settings where
  procnum := dma.procnum
  chan := dma.chan
  bitWidth := dma.bitWidth
  sar := dma.sar
  enable := dma.enable
  irq := dma.irq
  repeatMode := dma.repeatMode
  _startmode := dma._startmode
  reg_IF_bits := dma.reg_IF_bits

structure SamePlace (before after : DmaController) : Prop where
  settings : settings after = settings before
  wordcount : after.wordcount = before.wordcount
  saddr : after.saddr = before.saddr

theorem SamePlace.trans {first second third : DmaController} (one : SamePlace first second)
    (two : SamePlace second third) : SamePlace first third :=
  ⟨two.settings.trans one.settings,two.wordcount.trans one.wordcount,
    two.saddr.trans one.saddr⟩

theorem samePlace_arrive (dma : DmaController) : SamePlace dma (arrive dma) := by
  unfold arrive
  dsimp only
  split <;> exact ⟨rfl,rfl,rfl⟩

theorem samePlace_pauseRunning (dma : DmaController) : SamePlace dma (pauseRunning dma) := by
  unfold pauseRunning
  split <;> exact ⟨rfl,rfl,rfl⟩

theorem samePlace_scan (dma : DmaController) (env : Env) : SamePlace dma (scan dma env) := by
  unfold scan
  split
  · exact ⟨rfl,rfl,rfl⟩
  · split <;> exact ⟨rfl,rfl,rfl⟩
  · exact ⟨rfl,rfl,rfl⟩

theorem samePlace_tryTrigger (dma : DmaController) (nds_timer : Nat) (mode : EDMAMode) :
    SamePlace dma (tryTrigger dma nds_timer mode) := by
  unfold tryTrigger
  split
  · exact ⟨rfl,rfl,rfl⟩
  · split
    · exact ⟨rfl,rfl,rfl⟩
    · split <;> exact ⟨rfl,rfl,rfl⟩

theorem settings_freeze (dma : DmaController) : settings (freeze dma) = settings dma := by
  unfold freeze
  split <;> rfl

theorem settings_writeBack (dma : DmaController) (src dst : u32) :
    settings (writeBack dma src dst) = settings dma := by
  unfold writeBack
  dsimp only
  split <;> rfl

theorem settings_countDown (dma : DmaController) (todo : u32) :
    settings (countDown dma todo) = settings dma := by
  unfold countDown
  split
  · split <;> rfl
  · rfl

theorem tryTrigger_running {dma : DmaController} (running : dma.running = true)
    (going : dma.paused = false) (nds_timer : Nat) (mode : EDMAMode) :
    tryTrigger dma nds_timer mode = dma := by
  have busy : dma.running = true ∧ ¬dma.paused = true := ⟨running,by rw [going]; exact nofun⟩
  unfold tryTrigger
  rw [if_pos busy]
  split
  · rfl
  · split <;> rfl

theorem foldl_raised {dma : DmaController} (running : dma.running = true)
    (going : dma.paused = false) (nds_timer : Nat) (raised : List EDMAMode) :
    (raised.map Access.trigger).foldl (access nds_timer) dma = dma := by
  induction raised with
  | nil => rfl
  | cons mode rest ih =>
      rw [List.map_cons,List.foldl_cons]
      change (rest.map Access.trigger).foldl (access nds_timer)
        (tryTrigger dma nds_timer mode) = dma
      rw [tryTrigger_running running going]
      exact ih

theorem copied_raising {dma : DmaController} (running : dma.running = true)
    (going : dma.paused = false) (geo : dma.startmode = .GXFifo) (env : Env)
    (raised : List EDMAMode) : copied dma (env.raising raised) = dma := by
  have framed : frameEnd dma (env.raising raised) = dma := by
    unfold frameEnd
    rw [geo]
    exact if_neg (fun display => nomatch display.1)
  unfold copied
  rw [framed]
  exact foldl_raised running going env.nds_timer raised

theorem todo_geometry {dma : DmaController} (geo : dma.startmode = .GXFifo)
    (left : dma.wordcount ≠ 0) (env : Env) :
    (todo dma env).toNat = min dma.wordcount.toNat 112 ∧
      (transfer dma env).units = min dma.wordcount.toNat 112 := by
  have counted : ¬(dma.procnum = .ARMCPU_ARM9 ∧ dma.wordcount = 0) := fun both => left both.2
  have amount : todo dma env = if dma.wordcount ≤ 112 then dma.wordcount else 112 := by
    simp only [todo,if_neg counted,geo,reduceCtorEq,if_false,if_true]
  have size : (todo dma env).toNat = min dma.wordcount.toNat 112 := by
    rw [amount]
    split
    · bv_omega
    · bv_omega
  refine ⟨size,?_⟩
  have positive : (todo dma env).toInt = (todo dma env).toNat :=
    BitVec.toInt_eq_toNat_of_lt (by omega)
  change (todo dma env).toInt.toNat = _
  rw [positive]
  exact size

theorem saddr_doCopy (dma : DmaController) (env : Env) :
    (doCopy dma env).saddr =
      dma.saddr + dma.srcinc * BitVec.ofNat 32 (transfer dma env).units := by
  have counts (dma : DmaController) (todo : u32) : (countDown dma todo).saddr = dma.saddr := by
    unfold countDown
    split
    · split <;> rfl
    · rfl
  have writes (dma : DmaController) (src dst : u32) : (writeBack dma src dst).saddr = src := by
    unfold writeBack
    dsimp only
    split <;> rfl
  unfold doCopy
  dsimp only
  rw [counts,writes]
  rfl

theorem paused_doCopy (dma : DmaController) (env : Env) :
    (doCopy dma env).paused = (copied dma env).paused ∧ (doCopy dma env).dmaCheck = true := by
  have counts (dma : DmaController) (todo : u32) :
      (countDown dma todo).paused = dma.paused ∧
        (countDown dma todo).dmaCheck = dma.dmaCheck := by
    unfold countDown
    split
    · split <;> exact ⟨rfl,rfl⟩
    · exact ⟨rfl,rfl⟩
  have writes (dma : DmaController) (src dst : u32) :
      (writeBack dma src dst).paused = dma.paused ∧
        (writeBack dma src dst).dmaCheck = dma.dmaCheck := by
    unfold writeBack
    dsimp only
    split <;> exact ⟨rfl,rfl⟩
  have freezes (dma : DmaController) :
      (freeze dma).paused = dma.paused ∧ (freeze dma).dmaCheck = dma.dmaCheck := by
    unfold freeze
    split <;> exact ⟨rfl,rfl⟩
  unfold doCopy
  dsimp only
  rw [(counts _ _).1,(counts _ _).2,(writes _ _ _).1,(writes _ _ _).2,(freezes _).1,
    (freezes _).2]
  exact ⟨rfl,rfl⟩

structure Copied (before after : DmaController) (units : Nat) : Prop where
  settings : settings after = settings before
  running : after.running = true
  startmode : after.startmode = .GXFifo
  dmaCheck : after.dmaCheck = true
  wordcount : after.wordcount.toNat = before.wordcount.toNat - units
  saddr : after.saddr = before.saddr + before.srcinc * BitVec.ofNat 32 units

theorem doCopy_geometry {dma : DmaController} (running : dma.running = true)
    (going : dma.paused = false) (geo : dma.startmode = .GXFifo)
    (once : dma.repeatMode = false) (left : dma.wordcount ≠ 0) (env : Env)
    (raised : List EDMAMode) :
    Copied dma (doCopy dma (env.raising raised)) (min dma.wordcount.toNat 112) := by
  have whole := copied_raising running going geo env raised
  obtain ⟨size,units⟩ := todo_geometry geo left (env.raising raised)
  obtain ⟨runs,mode⟩ := doCopy_running dma (env.raising raised)
  have cnt := wordcount_doCopy dma (env.raising raised)
  have source := saddr_doCopy dma (env.raising raised)
  rw [whole] at runs mode cnt
  rw [once,if_neg Bool.false_ne_true,geo,if_neg (by exact nofun)] at cnt
  rw [units] at source
  refine ⟨?_,runs.trans running,mode.trans geo,(paused_doCopy _ _).2,?_,source⟩
  · unfold doCopy
    dsimp only
    rw [settings_countDown,settings_writeBack,settings_freeze,whole]
    rfl
  · rw [cnt]
    bv_omega

theorem scan_geometry {dma : DmaController} (geo : dma.startmode = .GXFifo) (env : Env) :
    scan dma env = if env.gxFIFO_size ≤ 127 then { dma with triggered := true } else dma := by
  unfold scan
  rw [geo]

theorem scan_kept (dma : DmaController) (env : Env) :
    (scan dma env).startmode = dma.startmode ∧ (scan dma env).running = dma.running ∧
      (scan dma env).paused = dma.paused := by
  unfold scan
  split
  · exact ⟨rfl,rfl,rfl⟩
  · split <;> exact ⟨rfl,rfl,rfl⟩
  · exact ⟨rfl,rfl,rfl⟩

theorem start_geometry {dma : DmaController} (enable : dma.enable = true)
    (mode : latchedMode dma.procnum dma.chan dma._startmode = .GXFifo) (env : Env) :
    SamePlace dma (start dma env).1 ∧ (start dma env).1.startmode = .GXFifo ∧
      (((start dma env).2 = true ∧ (start dma env).1.running = true ∧
          (start dma env).1.paused = false) ∨
        ((start dma env).2 = false ∧ ¬env.gxFIFO_size ≤ 127 ∧
          (start dma env).1.running = dma.running ∧ (start dma env).1.paused = dma.paused)) := by
  have latched : SamePlace dma (latch dma) := ⟨rfl,rfl,rfl⟩
  have place := latched.trans (samePlace_scan (latch dma) env)
  have geo : (latch dma).startmode = .GXFifo := mode
  obtain ⟨startmode,running,paused⟩ := scan_kept (latch dma) env
  have low := scan_geometry geo env
  unfold start
  rw [if_pos enable]
  dsimp only
  by_cases triggered : (scan (latch dma) env).triggered = true
  · rw [if_pos triggered]
    exact ⟨⟨place.settings,place.wordcount,place.saddr⟩,startmode.trans geo,
      Or.inl ⟨rfl,rfl,rfl⟩⟩
  · rw [if_neg triggered]
    refine ⟨place,startmode.trans geo,Or.inr ⟨rfl,?_,running,paused⟩⟩
    intro small
    rw [if_pos small] at low
    rw [low] at triggered
    exact triggered rfl

theorem exec_geometry {dma : DmaController} (enable : dma.enable = true)
    (mode : latchedMode dma.procnum dma.chan dma._startmode = .GXFifo)
    (goes : ends dma = false) (env : Env) :
    (∃ next, SamePlace dma next ∧ next.running = true ∧ next.paused = false ∧
        next.startmode = .GXFifo ∧ exec dma env = doCopy next env ∧
        copyEvents dma env = [.chunk (transfer next env)]) ∨
      (SamePlace dma (exec dma env) ∧ (exec dma env).startmode = .GXFifo ∧
        (exec dma env).running = dma.running ∧
        ((exec dma env).running = true → (exec dma env).paused = true) ∧
        ¬env.gxFIFO_size ≤ 127 ∧ copyEvents dma env = []) := by
  have arrived := (samePlace_arrive dma).trans (samePlace_pauseRunning (arrive dma))
  obtain ⟨procnum,chan,bits,enabled,-,-,-⟩ := arrive_kept dma
  have mode' : latchedMode (pauseRunning (arrive dma)).procnum
      (pauseRunning (arrive dma)).chan (pauseRunning (arrive dma))._startmode = .GXFifo := by
    rw [procnum,chan,bits]
    exact mode
  obtain ⟨place,startmode,cases_⟩ := start_geometry (enabled.trans enable) mode' env
  have paused : (pauseRunning (arrive dma)).running = dma.running ∧
      (dma.running = true → (pauseRunning (arrive dma)).paused = true) := by
    have same : (arrive dma).running = dma.running := by
      unfold arrive
      dsimp only
      split <;> rfl
    unfold pauseRunning
    rw [same]
    cases running : dma.running with
    | true => exact ⟨same.trans running,fun _ => rfl⟩
    | false => exact ⟨same.trans running,nofun⟩
  unfold exec copyEvents copying
  dsimp only
  rw [ends_arrive,goes,if_neg Bool.false_ne_true,if_neg Bool.false_ne_true,
    if_neg Bool.false_ne_true]
  rcases cases_ with ⟨begun,running,going⟩ | ⟨waits,high,running,keeps⟩
  · left
    rw [if_pos begun,if_pos begun]
    exact ⟨_,arrived.trans place,running,going,startmode,rfl,rfl⟩
  · right
    rw [waits,if_neg Bool.false_ne_true,if_neg Bool.false_ne_true]
    refine ⟨arrived.trans place,startmode,running.trans paused.1,?_,high,rfl⟩
    intro runs
    rw [keeps]
    exact paused.2 ((running.trans paused.1).symm.trans runs)

def firstSources (begun : DmaController) (cnt : Nat) : List u32 :=
  (List.range cnt).map fun i => begun.saddr + begun.srcinc * BitVec.ofNat 32 i

/-- A transfer of `n` words that has made its chunks and not stopped: where it is,
and that its event is due or the next trigger makes it due. -/
structure Going (begun : DmaController) (n : Nat) (dma : DmaController)
    (chunks : List Transfer) : Prop where
  settings : settings dma = settings begun
  moved : (chunks.map Transfer.units).sum + dma.wordcount.toNat = n
  saddr : dma.saddr = begun.saddr +
    begun.srcinc * BitVec.ofNat 32 (chunks.map Transfer.units).sum
  sources : chunks.flatMap (sources begun.srcinc) =
    firstSources begun (chunks.map Transfer.units).sum
  sizes : ∀ chunk ∈ chunks, 1 ≤ chunk.units ∧ chunk.units ≤ 112
  geometry : dma.running = true → dma.startmode = .GXFifo
  last : dma.wordcount = 0 → dma.running = true
  due : dma.dmaCheck = true ∨
    dma.startmode = .GXFifo ∧ (dma.running = true → dma.paused = true)

structure Begun (begun : DmaController) : Prop where
  enable : begun.enable = true
  once : begun.repeatMode = false
  mode : latchedMode begun.procnum begun.chan begun._startmode = .GXFifo

variable {begun dma : DmaController} {n : Nat} {chunks : List Transfer}

theorem ends_iff_empty (going : Going begun n dma chunks) :
    ends dma = true ↔ dma.wordcount = 0 := by
  unfold ends
  rw [decide_eq_true_eq]
  constructor
  · rintro ⟨running,done⟩
    by_contra left
    apply done
    exact ⟨going.geometry running,by bv_omega⟩
  · intro empty
    refine ⟨going.last empty,fun left => ?_⟩
    rw [empty] at left
    exact absurd left.2 (by decide)

theorem firstSources_add (begun : DmaController) (done units : Nat) :
    firstSources begun (done + units) = firstSources begun done ++
      sources begun.srcinc ⟨units,begun.saddr + begun.srcinc * BitVec.ofNat 32 done,0⟩ := by
  unfold firstSources sources
  rw [List.range_add,List.map_append,List.map_map]
  congr 1
  apply List.map_congr_left
  intro i _
  rw [Function.comp_apply,BitVec.ofNat_add,BitVec.mul_add,BitVec.add_assoc]

/-- A chunk comes behind the ones before it. -/
theorem Going.copy (going : Going begun n dma chunks) (once : begun.repeatMode = false)
    (left : dma.wordcount ≠ 0) {next : DmaController} (place : SamePlace dma next)
    (running : next.running = true) (unpaused : next.paused = false)
    (geometry : next.startmode = .GXFifo) (env : Env) (raised : List EDMAMode) :
    Going begun n (doCopy next (env.raising raised))
      (chunks ++ [transfer next (env.raising raised)]) := by
  have same : Dma.settings next = Dma.settings begun := place.settings.trans going.settings
  have left' : next.wordcount ≠ 0 := by rw [place.wordcount]; exact left
  have once' : next.repeatMode = false := (congrArg Settings.repeatMode same).trans once
  have inc : next.srcinc = begun.srcinc := by
    have width : next.bitWidth = begun.bitWidth := congrArg Settings.bitWidth same
    have update : next.sar = begun.sar := congrArg Settings.sar same
    unfold DmaController.srcinc
    rw [width,update]
  have copy := doCopy_geometry running unpaused geometry once' left' env raised
  have units := (todo_geometry geometry left' (env.raising raised)).2
  have place_ : (transfer next (env.raising raised)).src = begun.saddr +
      begun.srcinc * BitVec.ofNat 32 (chunks.map Transfer.units).sum :=
    place.saddr.trans going.saddr
  have some_ : 0 < next.wordcount.toNat := by
    rcases Nat.eq_zero_or_pos next.wordcount.toNat with zero | positive
    · exact absurd (BitVec.eq_of_toNat_eq zero) left'
    · exact positive
  have sum : ((chunks ++ [transfer next (env.raising raised)]).map Transfer.units).sum =
      (chunks.map Transfer.units).sum + min next.wordcount.toNat 112 := by
    rw [List.map_append,List.sum_append,List.map_singleton,List.sum_singleton,units]
  have moved := going.moved
  rw [← place.wordcount] at moved
  refine
    { settings := copy.settings.trans same
      moved := by rw [sum,copy.wordcount]; omega
      saddr := ?_
      sources := ?_
      sizes := ?_
      geometry := fun _ => copy.startmode
      last := fun _ => copy.running
      due := Or.inl copy.dmaCheck }
  · rw [copy.saddr,sum,inc,place.saddr,going.saddr,BitVec.ofNat_add,BitVec.mul_add,
      BitVec.add_assoc]
  · rw [sum,firstSources_add,List.flatMap_append,going.sources,List.flatMap_singleton]
    unfold Dma.sources
    rw [place_,units]
  · intro chunk member
    rcases List.mem_append.mp member with earlier | latest
    · exact going.sizes chunk earlier
    · rw [List.mem_singleton.mp latest,units]
      omega

theorem Going.trigger (going : Going begun n dma chunks) (nds_timer : Nat) (mode : EDMAMode) :
    Going begun n (tryTrigger dma nds_timer mode) chunks := by
  have place := samePlace_tryTrigger dma nds_timer mode
  obtain ⟨keptMode,runs,stays⟩ : (tryTrigger dma nds_timer mode).startmode = dma.startmode ∧
      (tryTrigger dma nds_timer mode).running = dma.running ∧
      ((tryTrigger dma nds_timer mode).dmaCheck = true ∨ tryTrigger dma nds_timer mode = dma) := by
    unfold tryTrigger
    split
    · exact ⟨rfl,rfl,Or.inr rfl⟩
    · split
      · exact ⟨rfl,rfl,Or.inr rfl⟩
      · split
        · exact ⟨rfl,rfl,Or.inr rfl⟩
        · exact ⟨rfl,rfl,Or.inl rfl⟩
  refine
    { settings := place.settings.trans going.settings
      moved := by rw [place.wordcount]; exact going.moved
      saddr := place.saddr.trans going.saddr
      sources := going.sources
      sizes := going.sizes
      geometry := by rw [keptMode,runs]; exact going.geometry
      last := by rw [place.wordcount,runs]; exact going.last
      due := ?_ }
  rcases stays with due | same
  · exact Or.inl due
  · rw [same]
    exact going.due

theorem Going.wait (going : Going begun n dma chunks) {next : DmaController}
    (place : SamePlace dma next) (geometry : next.startmode = .GXFifo)
    (running : next.running = dma.running) (paused : next.running = true → next.paused = true) :
    Going begun n next chunks :=
  { settings := place.settings.trans going.settings
    moved := by rw [place.wordcount]; exact going.moved
    saddr := place.saddr.trans going.saddr
    sources := going.sources
    sizes := going.sizes
    geometry := fun _ => geometry
    last := by rw [place.wordcount,running]; exact going.last
    due := Or.inr ⟨geometry,paused⟩ }

/-! ### The stop -/

/-- The bits of `reg_IF` once the transfer has ended. -/
def stopBits (begun : DmaController) : u32 :=
  if begun.irq then begun.reg_IF_bits ||| (1 : u32) <<< (IRQ_BIT_DMA_0 + begun.chan.val)
  else begun.reg_IF_bits

structure Stopped (begun dma : DmaController) : Prop where
  enable : dma.enable = false
  running : dma.running = false
  interrupt : dma.reg_IF_bits = stopBits begun

theorem Going.stop (going : Going begun n dma chunks) (once : begun.repeatMode = false)
    (empty : dma.wordcount = 0) (env : Env) :
    Stopped begun (exec dma env) ∧ copyEvents dma env = [.stop] := by
  have ended : ends (arrive dma) = true := by
    rw [ends_arrive]
    exact (ends_iff_empty going).mpr empty
  have same : Dma.settings (arrive dma) = Dma.settings begun :=
    (samePlace_arrive dma).settings.trans going.settings
  have single : ¬(arrive dma).repeatMode = true := by
    rw [show (arrive dma).repeatMode = begun.repeatMode from congrArg Settings.repeatMode same,
      once]
    exact Bool.false_ne_true
  have bits : (arrive dma).reg_IF_bits = begun.reg_IF_bits :=
    congrArg Settings.reg_IF_bits same
  have chan : (arrive dma).chan = begun.chan := congrArg Settings.chan same
  have irq : (arrive dma).irq = begun.irq := congrArg Settings.irq same
  unfold exec copyEvents
  dsimp only
  rw [if_pos ended,if_pos ended]
  refine ⟨?_,rfl⟩
  unfold doStop
  dsimp only
  rw [if_pos single,irq]
  cases requested : begun.irq with
  | true =>
      refine ⟨rfl,rfl,?_⟩
      unfold stopBits
      rw [requested,if_pos rfl,← bits,← chan]
      rfl
  | false =>
      refine ⟨rfl,rfl,?_⟩
      unfold stopBits
      rw [requested,if_neg Bool.false_ne_true]
      exact bits

theorem Stopped.step (stopped : Stopped begun dma) (op : GxOp) :
    Stopped begun (gxStep dma op).1 ∧ (gxStep dma op).2 = [] := by
  have untriggered (nds_timer : Nat) (mode : EDMAMode) : tryTrigger dma nds_timer mode = dma := by
    unfold tryTrigger
    split
    · rfl
    · exact if_pos (by rw [stopped.enable]; exact Bool.false_ne_true)
  cases op with
  | trigger nds_timer mode =>
      change Stopped begun (tryTrigger dma nds_timer mode) ∧ _
      rw [untriggered]
      exact ⟨stopped,rfl⟩
  | handleEvents nds_timer gxFIFO_size =>
      change Stopped begun (if gxFIFO_size ≤ 127 then tryTrigger dma nds_timer .GXFifo else dma) ∧ _
      rw [untriggered,ite_self]
      exact ⟨stopped,rfl⟩
  | exec env raised =>
      have place := (samePlace_arrive dma).trans (samePlace_pauseRunning (arrive dma))
      have idle : (arrive dma).running = false := by
        have same : (arrive dma).running = dma.running := by
          unfold arrive
          dsimp only
          split <;> rfl
        exact same.trans stopped.running
      have unpaused : pauseRunning (arrive dma) = arrive dma := by
        unfold pauseRunning
        rw [idle]
        exact if_neg Bool.false_ne_true
      have disabled : (arrive dma).enable = false :=
        (congrArg Settings.enable (samePlace_arrive dma).settings).trans stopped.enable
      have still : start (pauseRunning (arrive dma)) (env.raising raised) =
          (arrive dma, false) := by
        rw [unpaused]
        unfold start
        rw [disabled]
        exact if_neg Bool.false_ne_true
      have going : ends (arrive dma) = false := by
        unfold ends
        rw [idle]
        exact decide_eq_false (fun both => Bool.false_ne_true both.1)
      change Stopped begun (exec dma (env.raising raised)) ∧
        copyEvents dma (env.raising raised) = []
      unfold exec copyEvents copying
      dsimp only
      rw [going,still]
      refine ⟨⟨disabled,idle,?_⟩,rfl⟩
      exact (congrArg Settings.reg_IF_bits (samePlace_arrive dma).settings).trans
        stopped.interrupt

inductive Course (begun : DmaController) (n : Nat) (dma : DmaController)
    (log : List CopyEvent) : Prop
  | going (chunks : List Transfer) (logged : log = chunks.map .chunk)
      (going : Going begun n dma chunks)
  | stopped (chunks : List Transfer) (last : DmaController)
      (logged : log = chunks.map .chunk ++ [.stop]) (going : Going begun n last chunks)
      (empty : last.wordcount = 0) (stopped : Stopped begun dma)

def eventsLeft (dma : DmaController) : Nat :=
  if dma.enable then (dma.wordcount.toNat + 111) / 112 + 1 else 0

def lowEvent (op : GxOp) : Nat := lowEvents [op]

theorem Begun.going_enable (start : Begun begun) (going : Going begun n dma chunks) :
    dma.enable = true :=
  (congrArg Settings.enable going.settings).trans start.enable

theorem Begun.going_mode (start : Begun begun) (going : Going begun n dma chunks) :
    latchedMode dma.procnum dma.chan dma._startmode = .GXFifo := by
  have same := going.settings
  rw [show dma.procnum = begun.procnum from congrArg Settings.procnum same,
    show dma.chan = begun.chan from congrArg Settings.chan same,
    show dma._startmode = begun._startmode from congrArg Settings._startmode same]
  exact start.mode

theorem eventsLeft_samePlace {before after : DmaController} (place : SamePlace before after) :
    eventsLeft after = eventsLeft before := by
  have enable : after.enable = before.enable := congrArg Settings.enable place.settings
  unfold eventsLeft
  rw [enable,place.wordcount]

theorem course_exec (start : Begun begun) (going : Going begun n dma chunks) (env : Env)
    (raised : List EDMAMode) :
    Course begun n (exec dma (env.raising raised))
        (chunks.map .chunk ++ copyEvents dma (env.raising raised)) ∧
      eventsLeft (exec dma (env.raising raised)) + lowEvent (.exec env raised) ≤
        eventsLeft dma := by
  have enable := start.going_enable going
  have few : lowEvent (.exec env raised) ≤ 1 := by
    unfold lowEvent lowEvents
    exact List.countP_le_length
  by_cases empty : dma.wordcount = 0
  · obtain ⟨stopped,events⟩ := going.stop start.once empty (env.raising raised)
    rw [events]
    refine ⟨.stopped chunks dma rfl going empty stopped,?_⟩
    unfold eventsLeft
    rw [stopped.enable,enable,if_neg Bool.false_ne_true,if_pos rfl]
    omega
  · have open_ : ends dma = false := by
      rw [← Bool.not_eq_true,ends_iff_empty going]
      exact empty
    rcases exec_geometry enable (start.going_mode going) open_ (env.raising raised) with
      ⟨next,place,running,unpaused,geo,same,events⟩ |
      ⟨place,geo,running,paused,high,events⟩
    · have copied := going.copy start.once empty place running unpaused geo env raised
      have once : next.repeatMode = false :=
        ((congrArg Settings.repeatMode place.settings).trans
          (congrArg Settings.repeatMode going.settings)).trans start.once
      have left : next.wordcount ≠ 0 := by rw [place.wordcount]; exact empty
      have copy := doCopy_geometry running unpaused geo once left env raised
      have keeps : (doCopy next (env.raising raised)).enable = true := start.going_enable copied
      have positive : 0 < dma.wordcount.toNat := by
        rcases Nat.eq_zero_or_pos dma.wordcount.toNat with zero | positive
        · exact absurd (BitVec.eq_of_toNat_eq zero) empty
        · exact positive
      rw [same,events]
      refine ⟨.going _ (by rw [List.map_append]; rfl) copied,?_⟩
      unfold eventsLeft
      rw [keeps,enable,if_pos rfl,if_pos rfl,copy.wordcount,place.wordcount]
      omega
    · rw [events,List.append_nil,eventsLeft_samePlace place]
      refine ⟨.going chunks rfl (going.wait place geo running paused),?_⟩
      have none : lowEvent (.exec env raised) = 0 := by
        unfold lowEvent lowEvents
        rw [List.countP_singleton,if_neg]
        rw [decide_eq_true_eq]
        exact high
      omega

theorem Going.course {next : DmaController} (going : Going begun n next chunks)
    (place : SamePlace dma next) (op : GxOp) (quiet : lowEvent op = 0) :
    Course begun n next (chunks.map .chunk ++ []) ∧
      eventsLeft next ≤ eventsLeft dma - lowEvent op := by
  rw [List.append_nil,quiet,eventsLeft_samePlace place]
  exact ⟨.going chunks rfl going,le_rfl⟩

theorem course_step (start : Begun begun) {log : List CopyEvent}
    (course : Course begun n dma log) (op : GxOp) :
    Course begun n (gxStep dma op).1 (log ++ (gxStep dma op).2) ∧
      eventsLeft (gxStep dma op).1 ≤ eventsLeft dma - lowEvent op := by
  cases course with
  | stopped chunks last logged going empty stopped =>
      obtain ⟨after,silent⟩ := stopped.step op
      rw [silent,List.append_nil]
      refine ⟨.stopped chunks last logged going empty after,?_⟩
      unfold eventsLeft
      rw [after.enable,if_neg Bool.false_ne_true]
      exact Nat.zero_le _
  | going chunks logged going =>
      subst logged
      cases op with
      | exec env raised =>
          obtain ⟨after,fewer⟩ := course_exec start going env raised
          exact ⟨after,Nat.le_sub_of_add_le fewer⟩
      | trigger nds_timer mode =>
          exact (going.trigger nds_timer mode).course
            (samePlace_tryTrigger dma nds_timer mode) _ rfl
      | handleEvents nds_timer gxFIFO_size =>
          by_cases low : gxFIFO_size ≤ 127
          · have step : gxStep dma (.handleEvents nds_timer gxFIFO_size) =
                (tryTrigger dma nds_timer .GXFifo, []) := congrArg (·, []) (if_pos low)
            rw [step]
            exact (going.trigger nds_timer .GXFifo).course
              (samePlace_tryTrigger dma nds_timer .GXFifo) _ rfl
          · have step : gxStep dma (.handleEvents nds_timer gxFIFO_size) = (dma, []) :=
              congrArg (·, []) (if_neg low)
            rw [step]
            exact going.course ⟨rfl,rfl,rfl⟩ _ rfl

theorem lowEvents_snoc (ops : List GxOp) (op : GxOp) :
    lowEvents (ops ++ [op]) = lowEvents ops + lowEvent op := List.countP_append

theorem course_run (start : Begun begun) (initial : Going begun n begun []) (ops : List GxOp) :
    Course begun n (Run.logged gxStep begun ops).1 (Run.logged gxStep begun ops).2 ∧
      eventsLeft (Run.logged gxStep begun ops).1 ≤ eventsLeft begun - lowEvents ops := by
  induction ops using List.reverseRecOn with
  | nil => exact ⟨.going [] rfl initial,le_rfl⟩
  | append_singleton ops op ih =>
      obtain ⟨course,fewer⟩ := ih
      obtain ⟨next,less⟩ := course_step start course op
      rw [Run.logged_snoc,lowEvents_snoc]
      exact ⟨next,by dsimp only; omega⟩

theorem nodup_firstSources {begun : DmaController} {cnt : Nat} (small : cnt ≤ 2 ^ 21)
    (moving : begun.sar = .Increment ∨ begun.sar = .Decrement) :
    (firstSources begun cnt).Nodup := by
  unfold firstSources
  refine List.Nodup.map_on ?_ List.nodup_range
  intro first firstIn second secondIn same
  rw [List.mem_range] at firstIn secondIn
  have products := BitVec.add_right_inj begun.saddr |>.mp same
  unfold DmaController.srcinc at products
  generalize begun.bitWidth = width at products
  rcases moving with up | down
  · rw [up] at products
    cases width with
    | EDMABitWidth_16 =>
        change (2 : u32) * _ = 2 * _ at products
        bv_omega
    | EDMABitWidth_32 =>
        change (4 : u32) * _ = 4 * _ at products
        bv_omega
  · rw [down] at products
    cases width with
    | EDMABitWidth_16 =>
        change -(2 : u32) * _ = -2 * _ at products
        rw [BitVec.neg_mul,BitVec.neg_mul,BitVec.neg_inj] at products
        bv_omega
    | EDMABitWidth_32 =>
        change -(4 : u32) * _ = -4 * _ at products
        rw [BitVec.neg_mul,BitVec.neg_mul,BitVec.neg_inj] at products
        bv_omega

/-- The chunks of a log that is one of chunks and at most one stop. -/
structure Conserves (begun : DmaController) (n : Nat) (dma : DmaController)
    (log : List CopyEvent) (chunks : List Transfer) : Prop where
  /-- The chunks come first; a channel that is off has stopped once, behind them. -/
  logged : log = chunks.map .chunk ++ (if dma.enable then [] else [.stop])
  sizes : ∀ chunk ∈ chunks, 1 ≤ chunk.units ∧ chunk.units ≤ 112
  /-- Read one after the other they are the first words of the source. -/
  inOrder : chunks.flatMap (sources begun.srcinc) =
    firstSources begun (chunks.map Transfer.units).sum
  disjoint : begun.sar = .Increment ∨ begun.sar = .Decrement →
    (chunks.flatMap (sources begun.srcinc)).Nodup
  noMore : (chunks.map Transfer.units).sum ≤ n
  all : dma.enable = false → (chunks.map Transfer.units).sum = n ∧ dma.running = false
  /-- The interrupt comes with the stop. -/
  interrupt : dma.reg_IF_bits = if dma.enable then begun.reg_IF_bits else stopBits begun
  /-- A channel that is on has its event due, or gets it when the FIFO is low. -/
  resumes : dma.enable = true → dma.dmaCheck = true ∨ ∀ nds_timer gxFIFO_size,
    gxFIFO_size ≤ 127 → (GXF_FIFO_handleEvents dma nds_timer gxFIFO_size).dmaCheck = true

theorem Going.resumes (going : Going begun n dma chunks) (enable : dma.enable = true) :
    dma.dmaCheck = true ∨ ∀ nds_timer gxFIFO_size, gxFIFO_size ≤ 127 →
      (GXF_FIFO_handleEvents dma nds_timer gxFIFO_size).dmaCheck = true := by
  rcases going.due with due | ⟨geo,paused⟩
  · exact Or.inl due
  · refine Or.inr fun nds_timer gxFIFO_size low => ?_
    unfold GXF_FIFO_handleEvents tryTrigger
    rw [if_pos low,if_neg (not_not.mpr geo),if_neg (not_not.mpr enable),
      if_neg (fun both => both.2 (paused both.1))]
    rfl

theorem Course.conserves {log : List CopyEvent} (course : Course begun n dma log)
    (start : Begun begun) (small : n ≤ 2 ^ 21) : ∃ chunks, Conserves begun n dma log chunks := by
  cases course with
  | going chunks logged going =>
      have enable := start.going_enable going
      have moved := going.moved
      refine ⟨chunks,
        { logged := by rw [enable,if_pos rfl,List.append_nil]; exact logged
          sizes := going.sizes
          inOrder := going.sources
          disjoint := fun moving => ?_
          noMore := by omega
          all := fun off => absurd (enable.symm.trans off) nofun
          interrupt := ?_
          resumes := fun _ => going.resumes enable }⟩
      · rw [going.sources]
        exact nodup_firstSources (by omega) moving
      · rw [enable,if_pos rfl]
        exact congrArg Settings.reg_IF_bits going.settings
  | stopped chunks last logged going empty stopped =>
      have moved := going.moved
      have zero : last.wordcount.toNat = 0 := by rw [empty]; rfl
      have off : ¬dma.enable = true := by rw [stopped.enable]; exact Bool.false_ne_true
      refine ⟨chunks,
        { logged := by rw [if_neg off]; exact logged
          sizes := going.sizes
          inOrder := going.sources
          disjoint := fun moving => ?_
          noMore := by omega
          all := fun _ => ⟨by omega,stopped.running⟩
          interrupt := by rw [if_neg off]; exact stopped.interrupt
          resumes := fun enabled => absurd enabled off }⟩
      rw [going.sources]
      exact nodup_firstSources (by omega) moving

/-- The write starts a geometry transfer: the channel takes it, nothing else is
running on it, and the value asks for one without repetition. -/
structure StartsGXFifo (dma : DmaController) (val : u32) : Prop where
  procnum : dma.procnum = .ARMCPU_ARM9
  free : dma.running = true → dma.startmode = .GXFifo
  taken : doNotStart dma = false
  enable : (val >>> 16).getLsbD 15 = true
  once : (val >>> 16).getLsbD 9 = false
  mode : startmodeBits .ARMCPU_ARM9 val = 7
  words : val &&& 0x1FFFFF ≠ 0

theorem StartsGXFifo.begin {val : u32} (starts : StartsGXFifo dma val) (nds_timer : Nat) :
    Begun (write32 dma nds_timer val) ∧
      Going (write32 dma nds_timer val) (val &&& 0x1FFFFF).toNat (write32 dma nds_timer val)
        [] := by
  obtain ⟨procnum,chan,startmode,running,-,bits,enable⟩ := setControl_kept dma val
  have scheduled : write32 dma nds_timer val = doSchedule (setControl dma val) nds_timer :=
    if_pos (by rw [starts.taken]; exact Bool.false_ne_true)
  have cnt := wordcount_write32 dma nds_timer val
  have repeats : (setControl dma val).repeatMode = (val >>> 16).getLsbD 9 := by
    unfold setControl
    dsimp only
    split <;> split <;> rfl
  have mode : latchedMode (setControl dma val).procnum (setControl dma val).chan
      (setControl dma val)._startmode = .GXFifo := by
    rw [procnum,bits,starts.procnum,starts.mode]
    rfl
  have free : (setControl dma val).running = true → (setControl dma val).startmode = .GXFifo := by
    rw [running,startmode]
    exact starts.free
  rw [scheduled] at cnt ⊢
  refine ⟨⟨enable.trans starts.enable,repeats.trans starts.once,mode⟩,?_⟩
  exact
    { settings := rfl
      moved := by rw [cnt]; exact Nat.zero_add _
      saddr := (BitVec.add_zero _).symm.trans (congrArg (_ + ·) BitVec.mul_zero.symm)
      sources := rfl
      sizes := nofun
      geometry := free
      last := fun empty => absurd (cnt.symm.trans empty) starts.words
      due := Or.inl rfl }

/-- Every transfer in geometry mode without repetition, whatever happens to the
FIFO and to the channel: its chunks are the source word by word, it stops once,
after the last one, and it has stopped as soon as its event has come often
enough while the FIFO was low. -/
theorem gx_fifo_dma_conserves (dma : DmaController) (nds_timer : Nat) (val : u32)
    (starts : StartsGXFifo dma val) (ops : List GxOp) :
    (∃ chunks, Conserves (write32 dma nds_timer val) (val &&& 0x1FFFFF).toNat
        (Run.logged gxStep (write32 dma nds_timer val) ops).1
        (Run.logged gxStep (write32 dma nds_timer val) ops).2 chunks) ∧
      (((val &&& 0x1FFFFF).toNat + 111) / 112 < lowEvents ops →
        (Run.logged gxStep (write32 dma nds_timer val) ops).1.enable = false) := by
  obtain ⟨start,initial⟩ := starts.begin nds_timer
  obtain ⟨course,fewer⟩ := course_run start initial ops
  have small : (val &&& 0x1FFFFF).toNat ≤ 2 ^ 21 := by
    rw [BitVec.toNat_and]
    exact Nat.and_le_right.trans (by decide)
  refine ⟨course.conserves start small,fun often => ?_⟩
  have cnt : (write32 dma nds_timer val).wordcount = val &&& 0x1FFFFF :=
    wordcount_write32 dma nds_timer val
  unfold eventsLeft at fewer
  rw [start.enable,if_pos rfl,cnt] at fewer
  by_contra on
  rw [Bool.not_eq_false] at on
  rw [on,if_pos rfl] at fewer
  omega

/-- 200 words are asked for; the FIFO is full at the second event and a trigger
resumes the transfer. -/
def fullOnce : List GxOp :=
  [.exec (.quiet 0 10) [.GXFifo],.exec { Env.quiet 10 0 with gxFIFO_size := 200 } [],
    .handleEvents 20 100,.exec (.quiet 20 10) [],.exec (.quiet 30 0) []]

theorem gx_fifo_dma_conserves_resumed :
    let begun := write32 (.fresh .ARMCPU_ARM9 0) 0 0xF80000C8
    (∃ chunks, Conserves begun 200 (Run.logged gxStep begun fullOnce).1
        (Run.logged gxStep begun fullOnce).2 chunks) ∧
      (Run.logged gxStep begun fullOnce).1.enable = false := by
  have starts : StartsGXFifo (.fresh .ARMCPU_ARM9 0) 0xF80000C8 :=
    { procnum := rfl, free := nofun, taken := rfl, enable := rfl, once := rfl, mode := rfl,
      words := by decide }
  have run := gx_fifo_dma_conserves (.fresh .ARMCPU_ARM9 0) 0 0xF80000C8 starts fullOnce
  exact ⟨run.1,run.2 (by decide)⟩

end Desmume.Dma
