/-
Runs of register writes and events.

A write touches the page and the state of its own word; only the ARM7's write to
VCOUNT is seen by the other processor.
-/

import Desmume.Mmu.ReadWidths

namespace Desmume.Mmu

open Function (update update_eq_self update_of_ne update_self)

open Timer (Timers read_timer write_timer prescaler COUNT_UP)

inductive Op
  | write08 (proc : Proc) (word : Word) (off : Fin 4) (val : u8)
  | write16 (proc : Proc) (word : Word) (half : Fin 2) (val : u16)
  | write32 (proc : Proc) (word : Word) (val : u32)
  | hstart
  | hblank
  | irq (proc : Proc) (num : Nat)
  | gxstat (gxstat : Gx.TGXSTAT)
  | input (lidClosed : Bool) (input : Input)
  | timer (proc : Proc) (num : Fin 4)
  | pass (cycles : Nat)
  | ensata (query : Bool)

def step (m : Machine) : Op → Machine
  | .write08 proc word off val => write08 proc m (word.adr + off) val
  | .write16 proc word half val => write16 proc m (word.adr + 2 * half) val
  | .write32 proc word val => write32 proc m word.adr val
  | .hstart => execHardware_hstart m
  | .hblank => execHardware_hblank m
  | .irq proc num => NDS_makeIrq m proc num
  | .gxstat gxstat => { m with gxstat := gxstat }
  | .input lidClosed input => NDS_applyFinalInput m lidClosed input
  | .timer proc num => timerEvent m proc num
  | .pass cycles => { m with nds_timer := m.nds_timer + cycles }
  | .ensata query => { m with ensataQuery := query }

def KeepsByte (m : Machine) (proc : Proc) (word : Word) (off : Fin 4) (val : u8) : Prop :=
  let there := val = m.regs proc (word.adr + off)
  match word with
  | .IME | .IE => there
  | .DISPSTAT => 2 ≤ off.val → there
  | .TMxCNT _ => off.val < 2 → there
  | .POWCNT => proc = .ARMCPU_ARM7 → off.val < 2 → there
  | .IF | .EXTKEYIN => True

def KeepsWord (m : Machine) (proc : Proc) (word : Word) (half : Fin 2) (val : u16) : Prop :=
  match word with
  | .IME =>
      if half = 0 then val.toNat ≤ 1 else val = T1ReadWord (m.regs proc) (REG_IME + 2)
  | .IE => val = T1ReadWord (m.regs proc) (REG_IE + 2 * half)
  | .DISPSTAT =>
      half = 1 →
        (proc = .ARMCPU_ARM7 → 202 ≤ m.VCount.toNat ∧ m.VCount.toNat ≤ 212) →
          val = m.VCount.setWidth 16
  | .TMxCNT i =>
      half = 1 → val &&& 0x80 ≠ 0 →
        prescaler val = COUNT_UP ∧
          T1ReadWord (m.regs proc) (REG_TM0CNTL + 4 * i) =
            (m.timers proc).timerReload i
  | .POWCNT =>
      proc = .ARMCPU_ARM7 → half = 0 → val &&& 3 = T1ReadWord (m.regs proc) REG_POWCNT2
  | .IF | .EXTKEYIN => True

def KeepsLong (m : Machine) (proc : Proc) (word : Word) (val : u32) : Prop :=
  match word with
  | .IME => val.toNat ≤ 1
  | .IE => val = T1ReadLong (m.regs proc) REG_IE
  | .DISPSTAT => (val >>> 16).setWidth 16 = (m.VCount.setWidth 16 : u16)
  | .TMxCNT i =>
      let control : u16 := (val >>> 16).setWidth 16
      if control &&& 0x80 ≠ 0 then prescaler control = COUNT_UP
      else val.setWidth 16 = (m.timers proc).timer i
  | .POWCNT =>
      proc = .ARMCPU_ARM7 → val.setWidth 16 = T1ReadWord (m.regs proc) REG_POWCNT2
  | .IF | .EXTKEYIN => True

/-- The step leaves the register in agreement: a write to it keeps register and
page equal, no timer of it runs freely, and no overflow counts it up. -/
def Keeps (proc : Proc) (word : Word) (m : Machine) : Op → Prop
  | .write08 other target off val =>
      other = proc → target = word → KeepsByte m proc word off val
  | .write16 other target half val =>
      (other = proc ∨ word = .DISPSTAT ∧ other = .ARMCPU_ARM7) → target = word →
        KeepsWord m other word half val
  | .write32 other target val => other = proc → target = word → KeepsLong m proc word val
  | .timer other num =>
      other = proc → ∀ i, word = .TMxCNT i →
        ((Timer.event other num m.timers m.nds_timer).1 proc).timer i =
          (m.timers proc).timer i
  | _ => True

structure OnlyWord (before after : Machine) (proc : Proc) (word : Word) : Prop where
  page : ∀ other adr, (other ≠ proc ∨ adr < word.adr ∨ word.adr + 4 ≤ adr) →
    after.regs other adr = before.regs other adr
  ime : ∀ other, (other ≠ proc ∨ word ≠ .IME) → after.reg_IME other = before.reg_IME other
  ie : ∀ other, (other ≠ proc ∨ word ≠ .IE) → after.reg_IE other = before.reg_IE other
  power : (.ARMCPU_ARM7 ≠ proc ∨ word ≠ .POWCNT) → after.power2 = before.power2
  timer : ∀ other i, (other ≠ proc ∨ word ≠ .TMxCNT i) →
    (after.timers other).timer i = (before.timers other).timer i ∧
      (after.timers other).timerON i = (before.timers other).timerON i ∧
      (after.timers other).timerMODE i = (before.timers other).timerMODE i
  vcount : (word ≠ .DISPSTAT ∨ proc = .ARMCPU_ARM9) → after.VCount = before.VCount

theorem OnlyWord.refl (m : Machine) (proc : Proc) (word : Word) : OnlyWord m m proc word :=
  ⟨fun _ _ _ => rfl, fun _ _ => rfl, fun _ _ => rfl, fun _ => rfl, fun _ _ _ => ⟨rfl,rfl,rfl⟩,
    fun _ => rfl⟩

theorem OnlyWord.trans {first second third : Machine} {proc : Proc} {word : Word}
    (one : OnlyWord first second proc word) (two : OnlyWord second third proc word) :
    OnlyWord first third proc word where
  page other adr outside := (two.page other adr outside).trans (one.page other adr outside)
  ime other outside := (two.ime other outside).trans (one.ime other outside)
  ie other outside := (two.ie other outside).trans (one.ie other outside)
  power outside := (two.power outside).trans (one.power outside)
  timer other i outside := by
    obtain ⟨timer,on,mode⟩ := one.timer other i outside
    obtain ⟨timer',on',mode'⟩ := two.timer other i outside
    exact ⟨timer'.trans timer,on'.trans on,mode'.trans mode⟩
  vcount outside := (two.vcount outside).trans (one.vcount outside)

theorem setTimers_self (m : Machine) (proc : Proc) (timers : Timers) :
    (m.setTimers proc timers).timers proc = timers :=
  update_self _ _ _

variable {other : Proc} {adr : Nat} {change : IoMem → IoMem}

theorem setTimers_other (m : Machine) {proc : Proc} (ne : other ≠ proc)
    (timers : Timers) : (m.setTimers proc timers).timers other = m.timers other :=
  update_of_ne ne _ _

theorem mapRegs_self (m : Machine) (proc : Proc) (change : IoMem → IoMem) :
    (m.mapRegs proc change).regs proc = change (m.regs proc) :=
  congrArg Timers.regs (setTimers_self m proc _)

theorem mapRegs_other (m : Machine) {proc : Proc} (ne : other ≠ proc) (change : IoMem → IoMem) :
    (m.mapRegs proc change).regs other = m.regs other :=
  congrArg Timers.regs (setTimers_other m ne _)

theorem mapRegs_timers (m : Machine) (other proc : Proc) (change : IoMem → IoMem) :
    ((m.mapRegs other change).timers proc).timer = (m.timers proc).timer ∧
      ((m.mapRegs other change).timers proc).timerON = (m.timers proc).timerON ∧
      ((m.mapRegs other change).timers proc).timerMODE =
        (m.timers proc).timerMODE ∧
      ((m.mapRegs other change).timers proc).timerReload =
        (m.timers proc).timerReload := by
  unfold Machine.mapRegs
  by_cases same : proc = other
  · rw [same,setTimers_self]
    exact ⟨rfl,rfl,rfl,rfl⟩
  · rw [setTimers_other m same]
    exact ⟨rfl,rfl,rfl,rfl⟩

theorem OnlyWord.setTimers (m : Machine) {proc : Proc} {word : Word} {timers : Timers}
    (page : ∀ adr, (adr < word.adr ∨ word.adr + 4 ≤ adr) →
      timers.regs adr = m.regs proc adr) (timer : ∀ i, word ≠ .TMxCNT i →
      timers.timer i = (m.timers proc).timer i ∧
        timers.timerON i = (m.timers proc).timerON i ∧
        timers.timerMODE i = (m.timers proc).timerMODE i) :
    OnlyWord m (m.setTimers proc timers) proc word where
  page other adr outside := by
    by_cases same : other = proc
    · rw [same]
      have inside := outside.resolve_left (fun ne => ne same)
      exact (congrFun (congrArg Timers.regs (setTimers_self m proc timers)) adr).trans
        (page adr inside)
    · exact congrFun (congrArg Timers.regs (setTimers_other m same timers)) adr
  ime _ _ := rfl
  ie _ _ := rfl
  power _ := rfl
  timer other i outside := by
    by_cases same : other = proc
    · rw [same,setTimers_self]
      exact timer i (outside.resolve_left (fun ne => ne same))
    · rw [setTimers_other m same]
      exact ⟨rfl,rfl,rfl⟩
  vcount _ := rfl

theorem OnlyWord.mapRegs (m : Machine) {proc : Proc} {word : Word} {change : IoMem → IoMem}
    (page : ∀ regs adr, (adr < word.adr ∨ word.adr + 4 ≤ adr) → change regs adr = regs adr) :
    OnlyWord m (m.mapRegs proc change) proc word :=
  OnlyWord.setTimers m (fun adr outside => page _ adr outside)
    (fun _ _ => ⟨rfl,rfl,rfl⟩)

section

variable (m : Machine) (proc : Proc)

variable (word : Word)

theorem OnlyWord.page8 (off : Fin 4) (val : u8) :
    OnlyWord m (writePage8 m proc (word.adr + off) val) proc word :=
  OnlyWord.mapRegs m fun regs _ outside =>
    T1WriteByte_outside regs val (by omega)

theorem OnlyWord.page16 (half : Fin 2) (val : u16) :
    OnlyWord m (writePage16 m proc (word.adr + 2 * half) val) proc word :=
  OnlyWord.mapRegs m fun regs _ outside =>
    T1WriteWord_outside regs val (by omega)

theorem OnlyWord.page32 (val : u32) : OnlyWord m (writePage32 m proc word.adr val) proc word :=
  OnlyWord.mapRegs m fun regs _ outside => T1WriteLong_outside regs val outside

theorem OnlyWord.writeIME (val : u32) : OnlyWord m (writeIME m proc val) proc .IME := by
  let changed : Machine :=
    { m with reg_IME := update m.reg_IME proc (val &&& 1) }
  have ime : OnlyWord m changed proc .IME :=
    { page := fun _ _ _ => rfl
      ime := fun _ outside =>
        update_of_ne (outside.resolve_right (fun other => other rfl)) _ _
      ie := fun _ _ => rfl
      power := fun _ => rfl
      timer := fun _ _ _ => ⟨rfl,rfl,rfl⟩
      vcount := fun _ => rfl }
  exact ime.trans (OnlyWord.page32 changed proc .IME val)

theorem OnlyWord.setIE (val : u32) : OnlyWord m (setIE m proc val) proc .IE where
  page _ _ _ := rfl
  ime _ _ := rfl
  ie other outside := by
    have ne := outside.resolve_right (fun other => other rfl)
    exact update_of_ne ne _ _
  power _ := rfl
  timer _ _ _ := ⟨rfl,rfl,rfl⟩
  vcount _ := rfl

theorem OnlyWord.writeByteIF (addr : Nat) (val : u8) :
    OnlyWord m (REG_IF_WriteByte m proc addr val) proc word :=
  OnlyWord.setTimers m (fun _ _ => rfl) (fun _ _ => ⟨rfl,rfl,rfl⟩)

theorem OnlyWord.writeWordIF (addr : Nat) (val : u16) :
    OnlyWord m (REG_IF_WriteWord m proc addr val) proc word :=
  (OnlyWord.writeByteIF m proc word addr _).trans
    (OnlyWord.writeByteIF _ proc word (addr + 1) _)

theorem OnlyWord.setReload (word : Word) (adr : Nat) (val : u16) :
    OnlyWord m (setReload m proc adr val) proc word :=
  OnlyWord.setTimers m (fun _ _ => rfl) (fun _ _ => ⟨rfl,rfl,rfl⟩)

theorem OnlyWord.writeTimer (i : Fin 4) (val : u16) :
    OnlyWord m (writeTimer m proc i val) proc (.TMxCNT i) := by
  refine OnlyWord.setTimers m ?_ ?_
  · intro adr outside
    refine T1WriteWord_outside _ val ?_
    change adr < 0x100 + 4 * i.val ∨ 0x100 + 4 * i.val + 4 ≤ adr at outside
    omega
  · intro other ne
    have apart : other ≠ i := fun same => ne (congrArg Word.TMxCNT same.symm)
    exact ⟨update_of_ne apart _ _,update_of_ne apart _ _,
      update_of_ne apart _ _⟩

theorem OnlyWord.power1 (word : Word) (power1 : Power1) :
    OnlyWord m { m with power1 := power1 } proc word :=
  ⟨fun _ _ _ => rfl, fun _ _ => rfl, fun _ _ => rfl, fun _ => rfl,
    fun _ _ _ => ⟨rfl,rfl,rfl⟩, fun _ => rfl⟩

theorem timerIndex_TMxCNT (i : Fin 4) : timerIndex (Word.TMxCNT i).adr = i := by
  fin_cases i <;> rfl

/-! ### What a write does at each word -/

theorem write08_only (off : Fin 4) (val : u8) :
    OnlyWord m (write08 proc m (word.adr + off) val) proc word := by
  have page (m : Machine) := OnlyWord.page8 m proc word off val
  cases proc with
  | ARMCPU_ARM9 =>
      change OnlyWord m (MMU_ARM9_write08 m (word.adr + off) val) _ word
      unfold MMU_ARM9_write08
      split_ifs
      · exact (OnlyWord.power1 m _ word _).trans (page _)
      · exact (OnlyWord.writeByteIF m _ word _ val).trans (page _)
      · exact page m
      · exact OnlyWord.refl m _ word
  | ARMCPU_ARM7 =>
      change OnlyWord m (MMU_ARM7_write08 m (word.adr + off) val) _ word
      unfold MMU_ARM7_write08
      split_ifs
      · exact (OnlyWord.writeByteIF m _ word _ val).trans (page _)
      · exact page m
      · exact OnlyWord.refl m _ word

theorem write16_only (half : Fin 2) (val : u16) :
    OnlyWord m (write16 proc m (word.adr + 2 * half) val) proc word := by
  have page := OnlyWord.page16 m proc word half val
  cases word with
  | DISPSTAT =>
      match proc, half with
      | .ARMCPU_ARM9, 0 => exact page
      | .ARMCPU_ARM9, 1 => exact page
      | .ARMCPU_ARM7, 0 => exact page
      | .ARMCPU_ARM7, 1 =>
          change OnlyWord m (if _ then _ else m) _ _
          split
          · exact ⟨fun _ _ _ => rfl, fun _ _ => rfl, fun _ _ => rfl, fun _ => rfl,
              fun _ _ _ => ⟨rfl,rfl,rfl⟩, fun outside => absurd outside (by decide)⟩
          · exact OnlyWord.refl m _ _
  | TMxCNT i =>
      match half with
      | 0 =>
          have low : write16 proc m ((Word.TMxCNT i).adr + 2 * 0) val =
              setReload m proc (Word.TMxCNT i).adr val := by
            fin_cases i <;> cases proc <;> rfl
          exact low ▸ OnlyWord.setReload m proc _ _ val
      | 1 =>
          have high : write16 proc m ((Word.TMxCNT i).adr + 2 * 1) val =
              writeTimer m proc i val := by
            fin_cases i <;> cases proc <;> rfl
          exact high ▸ OnlyWord.writeTimer m proc i val
  | EXTKEYIN =>
      match proc, half with
      | .ARMCPU_ARM9, 0 => exact OnlyWord.refl m _ _
      | .ARMCPU_ARM9, 1 => exact OnlyWord.refl m _ _
      | .ARMCPU_ARM7, 0 => exact page
      | .ARMCPU_ARM7, 1 => exact OnlyWord.refl m _ _
  | IME =>
      match proc, half with
      | .ARMCPU_ARM9, 0 => exact OnlyWord.writeIME m _ _
      | .ARMCPU_ARM7, 0 => exact OnlyWord.writeIME m _ _
      | .ARMCPU_ARM9, 1 => exact page
      | .ARMCPU_ARM7, 1 => exact page
  | IE =>
      match proc, half with
      | .ARMCPU_ARM9, 0 => exact OnlyWord.setIE m _ _
      | .ARMCPU_ARM7, 0 => exact OnlyWord.setIE m _ _
      | .ARMCPU_ARM9, 1 => exact OnlyWord.setIE m _ _
      | .ARMCPU_ARM7, 1 => exact OnlyWord.setIE m _ _
  | IF =>
      match proc, half with
      | .ARMCPU_ARM9, 0 => exact OnlyWord.writeWordIF m _ _ 0 val
      | .ARMCPU_ARM7, 0 => exact OnlyWord.writeWordIF m _ _ 0 val
      | .ARMCPU_ARM9, 1 => exact OnlyWord.writeWordIF m _ _ 2 val
      | .ARMCPU_ARM7, 1 => exact OnlyWord.writeWordIF m _ _ 2 val
  | POWCNT =>
      match proc, half with
      | .ARMCPU_ARM9, 0 => exact OnlyWord.power1 m _ _ _
      | .ARMCPU_ARM9, 1 => exact page
      | .ARMCPU_ARM7, 1 => exact page
      | .ARMCPU_ARM7, 0 =>
          exact ⟨fun _ _ _ => rfl, fun _ _ => rfl, fun _ _ => rfl,
            fun outside => absurd outside (by decide), fun _ _ _ => ⟨rfl,rfl,rfl⟩, fun _ => rfl⟩

theorem write32_only (val : u32) : OnlyWord m (write32 proc m word.adr val) proc word := by
  have page (m : Machine) := OnlyWord.page32 m proc word val
  cases word with
  | DISPSTAT => cases proc <;> exact page m
  | TMxCNT i =>
      have eq : write32 proc m (Word.TMxCNT i).adr val =
          writeTimer32 m proc (Word.TMxCNT i).adr val := by
        fin_cases i <;> cases proc <;> rfl
      rw [eq]
      unfold writeTimer32
      rw [timerIndex_TMxCNT]
      have reload := OnlyWord.setReload m proc (.TMxCNT i) (Word.TMxCNT i).adr
        (val.setWidth 16)
      exact (reload.trans (OnlyWord.page16 _ proc (.TMxCNT i) 0 _)).trans
        (OnlyWord.writeTimer _ proc i _)
  | EXTKEYIN =>
      cases proc with
      | ARMCPU_ARM9 => exact OnlyWord.refl m _ _
      | ARMCPU_ARM7 => exact page m
  | IME => cases proc <;> exact OnlyWord.writeIME m _ val
  | IE => cases proc <;> exact OnlyWord.setIE m _ val
  | IF =>
      have both (proc : Proc) := (OnlyWord.writeWordIF m proc .IF 0 (val.setWidth 16)).trans
        (OnlyWord.writeWordIF _ proc .IF 2 ((val >>> 16).setWidth 16))
      cases proc <;> exact both _
  | POWCNT =>
      cases proc with
      | ARMCPU_ARM9 => exact (OnlyWord.power1 m _ _ _).trans (page _)
      | ARMCPU_ARM7 => exact page m

end

def Held (m : Machine) (proc : Proc) : Word → Prop
  | .TMxCNT i =>
      T1ReadWord (m.regs proc) (REG_TM0CNTL + 4 * i) = (m.timers proc).timer i ∧
        ((m.timers proc).timerON i = true → (m.timers proc).timerMODE i = COUNT_UP)
  | .EXTKEYIN => proc = .ARMCPU_ARM9
  | .DISPSTAT => Backed m proc .DISPSTAT
  | .IME => Backed m proc .IME
  | .IE => Backed m proc .IE
  | .IF => Backed m proc .IF
  | .POWCNT => Backed m proc .POWCNT

theorem Held.backed {m : Machine} {proc : Proc} {word : Word}
    (held : Held m proc word) : Backed m proc word := by
  cases word with
  | TMxCNT i =>
      refine ⟨held.1,?_⟩
      unfold read_timer
      by_cases counting : (m.timers proc).timerMODE i = COUNT_UP
      · rw [if_pos counting]
      · have stopped : ¬(m.timers proc).timerON i = true :=
          fun on => counting (held.2 on)
        rw [if_neg counting,if_pos stopped]
  | EXTKEYIN => exact Or.inl held
  | DISPSTAT => exact held
  | IME => exact held
  | IE => exact held
  | IF => exact held
  | POWCNT => exact held

theorem Word.apart {target word : Word} (ne : target ≠ word)
    (inside : word.adr ≤ adr ∧ adr < word.adr + 4) : adr < target.adr ∨ target.adr + 4 ≤ adr := by
  obtain ⟨above,below⟩ := inside
  cases target <;> cases word <;>
    simp only [Word.adr,REG_DISPA_DISPSTAT,REG_TM0CNTL,REG_RCNT,REG_IME,REG_IE,REG_IF,
      REG_POWCNT1] at above below ⊢ <;> try omega
  case TMxCNT.TMxCNT i j =>
    have numbers : i.val ≠ j.val := fun same => ne (congrArg _ (Fin.ext same))
    omega
  all_goals exact absurd rfl ne

def Word.backing : Word → Nat → Prop
  | DISPSTAT, adr => adr = REG_DISPx_VCOUNT ∨ adr = REG_DISPx_VCOUNT + 1
  | TMxCNT i, adr => adr = (TMxCNT i).adr ∨ adr = (TMxCNT i).adr + 1
  | IME, adr => REG_IME ≤ adr ∧ adr < REG_IME + 4
  | IE, adr => REG_IE ≤ adr ∧ adr < REG_IE + 4
  | POWCNT, adr => adr = REG_POWCNT2 ∨ adr = REG_POWCNT2 + 1
  | EXTKEYIN, _ => False
  | IF, _ => False

theorem Word.backing_inside {word : Word} (behind : word.backing adr) :
    word.adr ≤ adr ∧ adr < word.adr + 4 := by
  cases word <;> simp only [backing,Word.adr,REG_DISPx_VCOUNT,REG_DISPA_DISPSTAT,REG_POWCNT2,
    REG_POWCNT1] at behind ⊢ <;> omega

structure SameWord (before after : Machine) (proc : Proc) (word : Word) : Prop where
  page : ∀ adr, word.backing adr → after.regs proc adr = before.regs proc adr
  ime : word = .IME → after.reg_IME proc = before.reg_IME proc
  ie : word = .IE → after.reg_IE proc = before.reg_IE proc
  power : word = .POWCNT → proc = .ARMCPU_ARM7 → after.power2 = before.power2
  timer : ∀ i, word = .TMxCNT i →
    (after.timers proc).timer i = (before.timers proc).timer i ∧
      (after.timers proc).timerON i = (before.timers proc).timerON i ∧
      (after.timers proc).timerMODE i = (before.timers proc).timerMODE i
  vcount : word = .DISPSTAT → after.VCount = before.VCount

theorem SameWord.held {before after : Machine} {proc : Proc} {word : Word}
    (same : SameWord before after proc word) (held : Held before proc word) :
    Held after proc word := by
  cases word with
  | DISPSTAT =>
      have page : T1ReadWord (after.regs proc) REG_DISPx_VCOUNT =
          T1ReadWord (before.regs proc) REG_DISPx_VCOUNT :=
        T1ReadWord_congr (same.page _ (Or.inl rfl)) (same.page _ (Or.inr rfl))
      exact page.trans (held.trans (congrArg (BitVec.setWidth 16) (same.vcount rfl).symm))
  | TMxCNT i =>
      have page : T1ReadWord (after.regs proc) (Word.TMxCNT i).adr =
          T1ReadWord (before.regs proc) (Word.TMxCNT i).adr :=
        T1ReadWord_congr (same.page _ (Or.inl rfl)) (same.page _ (Or.inr rfl))
      obtain ⟨timer,on,mode⟩ := same.timer i rfl
      refine ⟨(page.trans held.1).trans timer.symm,?_⟩
      rw [on,mode]
      exact held.2
  | EXTKEYIN => exact held
  | IME =>
      have page : T1ReadLong (after.regs proc) REG_IME = T1ReadLong (before.regs proc) REG_IME :=
        T1ReadLong_congr fun off inside => same.page _ ⟨by omega,by omega⟩
      exact (page.trans held).trans (same.ime rfl).symm
  | IE =>
      have page : T1ReadLong (after.regs proc) REG_IE = T1ReadLong (before.regs proc) REG_IE :=
        T1ReadLong_congr fun off inside => same.page _ ⟨by omega,by omega⟩
      exact (page.trans held).trans (same.ie rfl).symm
  | IF => trivial
  | POWCNT =>
      cases proc with
      | ARMCPU_ARM9 => exact Or.inl rfl
      | ARMCPU_ARM7 =>
          have page : T1ReadWord (after.regs .ARMCPU_ARM7) REG_POWCNT2 =
              T1ReadWord (before.regs .ARMCPU_ARM7) REG_POWCNT2 :=
            T1ReadWord_congr (same.page _ (Or.inl rfl)) (same.page _ (Or.inr rfl))
          have there := held.resolve_left (by decide)
          exact Or.inr (page.trans (there.trans
            (congrArg (fun power2 => (POWCNT2 power2).setWidth 16) (same.power rfl rfl).symm)))

theorem SameWord.mapRegs (m : Machine) (other proc : Proc) (word : Word) {change : IoMem → IoMem}
    (kept : ∀ regs adr, word.backing adr → change regs adr = regs adr) :
    SameWord m (m.mapRegs other change) proc word where
  page adr behind := by
    by_cases same : proc = other
    · rw [same,mapRegs_self]
      exact kept _ adr behind
    · rw [mapRegs_other m same]
  ime _ := rfl
  ie _ := rfl
  power _ _ := rfl
  timer i _ := by
    obtain ⟨timer,on,mode,-⟩ := mapRegs_timers m other proc change
    exact ⟨congrFun timer i,congrFun on i,congrFun mode i⟩
  vcount _ := rfl

theorem OnlyWord.sameWord {before after : Machine} {proc : Proc} {target word : Word}
    (only : OnlyWord before after other target) (apart : other ≠ proc ∨ target ≠ word)
    (vcount : word = .DISPSTAT → after.VCount = before.VCount) :
    SameWord before after proc word := by
  have away : proc ≠ other ∨ target ≠ word := apart.imp_left Ne.symm
  refine ⟨?_,?_,?_,?_,?_,vcount⟩
  · intro adr behind
    exact only.page proc adr (away.imp_right fun ne =>
      Word.apart ne (Word.backing_inside behind))
  · rintro rfl
    exact only.ime proc away
  · rintro rfl
    exact only.ie proc away
  · rintro rfl rfl
    exact only.power away
  · rintro i rfl
    exact only.timer proc i away

theorem mapRegs_id (m : Machine) (proc : Proc) (same : change (m.regs proc) = m.regs proc) :
    m.mapRegs proc change = m := by
  unfold Machine.mapRegs Machine.setTimers
  rw [same]
  have timers : update m.timers proc
      { m.timers proc with regs := m.regs proc } = m.timers :=
    update_eq_self proc m.timers
  rw [timers]

theorem writePage8_there (m : Machine) (proc : Proc) (adr : Nat) {val : u8}
    (there : val = m.regs proc adr) : writePage8 m proc adr val = m := by
  refine mapRegs_id m proc ?_
  rw [there]
  exact update_eq_self adr _

theorem writePage16_there (m : Machine) (proc : Proc) (adr : Nat) {val : u16}
    (there : val = T1ReadWord (m.regs proc) adr) : writePage16 m proc adr val = m := by
  refine mapRegs_id m proc ?_
  obtain ⟨high,low⟩ := (eq_append_bytes_iff val _ _).mp there
  have masked : (val &&& 0xFF).setWidth 8 = (val.setWidth 8 : u8) := by
    apply BitVec.eq_of_getLsbD_eq
    intro i inside
    interval_cases i <;> simp
  unfold T1WriteWord
  rw [high,masked,low,update_eq_self,update_eq_self]

section

variable {m : Machine} {proc : Proc} {word : Word}

theorem held_write08 (held : Held m proc word) {off : Fin 4} {val : u8}
    (keeps : KeepsByte m proc word off val) :
    Held (write08 proc m (word.adr + off) val) proc word := by
  cases word with
  | IME =>
      have page : write08 proc m (Word.IME.adr + off) val =
          writePage8 m proc (Word.IME.adr + off) val := by
        fin_cases off <;> cases proc <;> rfl
      rw [page,writePage8_there m proc _ keeps]
      exact held
  | IE =>
      have page : write08 proc m (Word.IE.adr + off) val =
          writePage8 m proc (Word.IE.adr + off) val := by
        fin_cases off <;> cases proc <;> rfl
      rw [page,writePage8_there m proc _ keeps]
      exact held
  | EXTKEYIN => exact held
  | IF => trivial
  | DISPSTAT =>
      have page : write08 proc m (Word.DISPSTAT.adr + off) val =
          writePage8 m proc (Word.DISPSTAT.adr + off) val := by
        fin_cases off <;> cases proc <;> rfl
      rw [page]
      by_cases high : 2 ≤ off.val
      · rw [writePage8_there m proc _ (keeps high)]
        exact held
      · refine (SameWord.mapRegs m proc proc _ ?_).held held
        intro regs adr behind
        refine T1WriteByte_outside regs val ?_
        simp only [Word.backing,Word.adr,REG_DISPA_DISPSTAT,REG_DISPx_VCOUNT] at behind ⊢
        omega
  | TMxCNT i =>
      have page : write08 proc m ((Word.TMxCNT i).adr + off) val =
          writePage8 m proc ((Word.TMxCNT i).adr + off) val := by
        fin_cases i <;> fin_cases off <;> cases proc <;> rfl
      rw [page]
      by_cases low : off.val < 2
      · rw [writePage8_there m proc _ (keeps low)]
        exact held
      · refine (SameWord.mapRegs m proc proc _ ?_).held held
        intro regs adr behind
        refine T1WriteByte_outside regs val ?_
        simp only [Word.backing] at behind
        omega
  | POWCNT =>
      cases proc with
      | ARMCPU_ARM9 => exact Or.inl rfl
      | ARMCPU_ARM7 =>
          have page : write08 .ARMCPU_ARM7 m (Word.POWCNT.adr + off) val =
              writePage8 m .ARMCPU_ARM7 (Word.POWCNT.adr + off) val := by
            fin_cases off <;> rfl
          rw [page]
          by_cases low : off.val < 2
          · rw [writePage8_there m _ _ (keeps rfl low)]
            exact held
          · refine (SameWord.mapRegs m _ _ _ ?_).held held
            intro regs adr behind
            refine T1WriteByte_outside regs val ?_
            simp only [Word.backing,Word.adr,REG_POWCNT1,REG_POWCNT2] at behind ⊢
            omega

variable {val : u32}

theorem and_one_of_le (small : val.toNat ≤ 1) : val &&& 1 = val := by
  apply BitVec.eq_of_toNat_eq
  rw [BitVec.toNat_and]
  change val.toNat &&& 1 = val.toNat
  rw [Nat.and_one_is_mod]
  omega

theorem held_writeIME (small : val.toNat ≤ 1) : Held (writeIME m proc val) proc .IME := by
  let changed : Machine :=
    { m with reg_IME := update m.reg_IME proc (val &&& 1) }
  have page : (writeIME m proc val).regs proc =
      T1WriteLong (m.regs proc) REG_IME val :=
    mapRegs_self changed proc fun regs => T1WriteLong regs REG_IME val
  have ime : (writeIME m proc val).reg_IME proc = val &&& 1 := update_self _ _ _
  change T1ReadLong _ _ = _
  rw [page,ime,T1ReadLong_T1WriteLong,and_one_of_le small]

theorem getLsbD_lowBits (w n i : Nat) :
    (BitVec.ofNat w (2 ^ n - 1)).getLsbD i = (decide (i < w) && decide (i < n)) := by
  rw [BitVec.getLsbD_ofNat,Nat.testBit_two_pow_sub_one]

theorem getLsbD_lowHalf {i : Nat} (inside : i < 32) :
    (0xFFFF : u32).getLsbD i = decide (i < 16) := by
  have mask : (0xFFFF : u32) = BitVec.ofNat 32 (2 ^ 16 - 1) := rfl
  rw [mask,getLsbD_lowBits,decide_eq_true inside,Bool.true_and]

theorem join_low (reg : u32) : (reg &&& 0xFFFF0000) |||
    (reg.setWidth 16 : u16).setWidth 32 = reg := by
  have mask : (0xFFFF0000 : u32) = ~~~0xFFFF := rfl
  apply BitVec.eq_of_getLsbD_eq
  intro i inside
  rw [mask,BitVec.getLsbD_or,BitVec.getLsbD_and,BitVec.getLsbD_not,
    getLsbD_lowHalf inside,
    BitVec.getLsbD_setWidth,BitVec.getLsbD_setWidth]
  simp only [inside,decide_true,Bool.true_and]
  cases decide (i < 16) with
  | false => simp only [Bool.not_false,Bool.and_true,Bool.false_and,Bool.or_false]
  | true => simp only [Bool.not_true,Bool.and_false,Bool.true_and,Bool.false_or]

theorem join_high (reg : u32) :
    (reg &&& 0xFFFF) ||| (((reg >>> 16).setWidth 16 : u16).setWidth 32 <<< 16) = reg := by
  change (reg &&& (0xFFFF : u32)) ||| _ = reg
  apply BitVec.eq_of_getLsbD_eq
  intro i inside
  rw [BitVec.getLsbD_or,BitVec.getLsbD_and,getLsbD_lowHalf inside,BitVec.getLsbD_shiftLeft,
    BitVec.getLsbD_setWidth,BitVec.getLsbD_setWidth,BitVec.getLsbD_ushiftRight]
  by_cases low : i < 16
  · simp only [low,decide_true,Bool.and_true,Bool.not_true,Bool.and_false,Bool.false_and,
      Bool.or_false]
  · have same : 16 + (i - 16) = i := by omega
    have upper : i - 16 < 32 ∧ i - 16 < 16 := by omega
    simp only [low,inside,upper,same,decide_false,decide_true,Bool.and_false,Bool.not_false,
      Bool.true_and,Bool.false_or]

theorem setIE_there (same : val = m.reg_IE proc) : setIE m proc val = m := by
  unfold setIE
  rw [same,update_eq_self]

theorem held_writeTimer {i : Fin 4} {val : u16}
    (starts : val &&& 0x80 ≠ 0 → prescaler val = COUNT_UP ∧
      T1ReadWord (m.regs proc) (REG_TM0CNTL + 4 * i) =
        (m.timers proc).timerReload i) (stops : ¬val &&& 0x80 ≠ 0 → Held m proc (.TMxCNT i)) :
    Held (writeTimer m proc i val) proc (.TMxCNT i) := by
  have timers := setTimers_self m proc
    (write_timer (m.timers proc) m.nds_timer i val)
  have page : T1ReadWord ((writeTimer m proc i val).regs proc) (REG_TM0CNTL + 4 * i) =
      T1ReadWord (m.regs proc) (REG_TM0CNTL + 4 * i) := by
    change T1ReadWord ((m.setTimers proc _).timers proc).regs _ = _
    rw [timers]
    refine T1ReadWord_T1WriteWord_of_disjoint _ _ _ _ ?_
    simp only [REG_TM0CNTL]
    omega
  change T1ReadWord _ _ = ((m.setTimers proc _).timers proc).timer i ∧
    (((m.setTimers proc _).timers proc).timerON i = true →
      ((m.setTimers proc _).timers proc).timerMODE i = COUNT_UP)
  rw [page,timers]
  simp only [write_timer,update_self]
  by_cases start : val &&& 0x80 ≠ 0
  · obtain ⟨mode,reload⟩ := starts start
    rw [if_pos start]
    exact ⟨reload,fun _ => mode⟩
  · have held := stops start
    rw [if_neg start,held.backed.2,ite_self]
    exact ⟨held.1,fun on => absurd (of_decide_eq_true on) start⟩

theorem getLsbD_flagBit (flag : Bool) {bit : Nat} (inside : bit < 32) (i : Nat) :
    (flagBit flag bit).getLsbD i = (flag && decide (i = bit)) := by
  unfold flagBit
  cases flag with
  | false => exact BitVec.getLsbD_zero
  | true =>
      change (1#32 <<< bit).getLsbD i = _
      rw [← BitVec.twoPow_eq,BitVec.getLsbD_twoPow,decide_eq_true inside,Bool.true_and,
        Bool.true_and,decide_eq_decide]
      exact eq_comm

theorem POWCNT2_written (val : u16) :
    (POWCNT2 { speakers := val.getLsbD 0, wifi := val.getLsbD 1 }).setWidth 16 = val &&& 3 := by
  apply BitVec.eq_of_getLsbD_eq
  intro i inside
  unfold POWCNT2
  rw [BitVec.getLsbD_setWidth,BitVec.getLsbD_or,getLsbD_flagBit _ (by omega),
    getLsbD_flagBit _ (by omega),BitVec.getLsbD_and,decide_eq_true inside,Bool.true_and]
  match i with
  | 0 => simp
  | 1 => simp
  | high + 2 =>
      have mask : (3 : u16) = BitVec.ofNat 16 (2 ^ 2 - 1) := rfl
      rw [mask,getLsbD_lowBits]
      simp

theorem held_writeVCOUNT (held : Held m proc .DISPSTAT) {val : u16}
    (keeps : KeepsWord m .ARMCPU_ARM7 .DISPSTAT 1 val) :
    Held (write16 .ARMCPU_ARM7 m (Word.DISPSTAT.adr + 2 * (1 : Fin 2)) val) proc
      .DISPSTAT := by
  have high : write16 .ARMCPU_ARM7 m (Word.DISPSTAT.adr + 2 * 1) val =
    if 202 ≤ m.VCount.toNat ∧ m.VCount.toNat ≤ 212 then
      { m with VCount := val.setWidth 32 }
    else m := rfl
  rw [show ((1 : Fin 2) : Nat) = 1 from rfl,high]
  by_cases late : 202 ≤ m.VCount.toNat ∧ m.VCount.toNat ≤ 212
  · have there := keeps rfl (fun _ => late)
    rw [if_pos late]
    refine held.trans (there.symm.trans ?_)
    apply BitVec.eq_of_getLsbD_eq
    intro i inside
    simp [inside]
  · rw [if_neg late]
    exact held

theorem held_write16 (held : Held m proc word) {half : Fin 2} {val : u16}
    (keeps : KeepsWord m proc word half val) :
    Held (write16 proc m (word.adr + 2 * half) val) proc word := by
  cases word with
  | IME =>
      match half with
      | 0 =>
          have low : write16 proc m (Word.IME.adr + 2 * 0) val =
              writeIME m proc (val.setWidth 32) := by
            cases proc <;> rfl
          have small : val.toNat ≤ 1 := keeps
          rw [show ((0 : Fin 2) : Nat) = 0 from rfl,low]
          refine held_writeIME ?_
          rw [BitVec.toNat_setWidth]
          exact Nat.le_trans (Nat.mod_le _ _) small
      | 1 =>
          have high : write16 proc m (Word.IME.adr + 2 * 1) val =
              writePage16 m proc (REG_IME + 2) val := by
            cases proc <;> rfl
          have there : val = T1ReadWord (m.regs proc) (REG_IME + 2) := keeps
          rw [show ((1 : Fin 2) : Nat) = 1 from rfl,high,writePage16_there m proc _ there]
          exact held
  | IE =>
      have whole : T1ReadLong (m.regs proc) REG_IE = m.reg_IE proc := held
      obtain ⟨above,below⟩ := (eq_append_words_iff (m.reg_IE proc) _ _).mp whole.symm
      match half with
      | 0 =>
          have low : write16 proc m (Word.IE.adr + 2 * 0) val =
              setIE m proc
                ((m.reg_IE proc &&& 0xFFFF0000) ||| val.setWidth 32) := by
            cases proc <;> rfl
          have there : val = (m.reg_IE proc).setWidth 16 := Eq.trans keeps below.symm
          have same : (m.reg_IE proc &&& 0xFFFF0000) ||| val.setWidth 32 =
              m.reg_IE proc := by
            rw [there,join_low]
          rw [show ((0 : Fin 2) : Nat) = 0 from rfl,low,setIE_there same]
          exact held
      | 1 =>
          have high : write16 proc m (Word.IE.adr + 2 * 1) val =
              setIE m proc
                ((m.reg_IE proc &&& 0xFFFF) ||| (val.setWidth 32 <<< 16)) := by
            cases proc <;> rfl
          have there : val = ((m.reg_IE proc) >>> 16).setWidth 16 :=
            Eq.trans keeps above.symm
          have same : (m.reg_IE proc &&& 0xFFFF) ||| (val.setWidth 32 <<< 16) =
              m.reg_IE proc := by
            rw [there,join_high]
          rw [show ((1 : Fin 2) : Nat) = 1 from rfl,high,setIE_there same]
          exact held
  | EXTKEYIN => exact held
  | IF => trivial
  | DISPSTAT =>
      match half with
      | 0 =>
          have low : write16 proc m (Word.DISPSTAT.adr + 2 * 0) val =
              writePage16 m proc REG_DISPA_DISPSTAT val := by
            cases proc <;> rfl
          rw [show ((0 : Fin 2) : Nat) = 0 from rfl,low]
          refine (SameWord.mapRegs m proc proc _ ?_).held held
          intro regs adr behind
          refine T1WriteWord_outside regs val ?_
          simp only [Word.backing,REG_DISPA_DISPSTAT,REG_DISPx_VCOUNT] at behind ⊢
          omega
      | 1 =>
          cases proc with
          | ARMCPU_ARM9 =>
              have there := keeps rfl nofun
              have held : T1ReadWord (m.regs .ARMCPU_ARM9) REG_DISPx_VCOUNT =
                m.VCount.setWidth 16 := held
              have high : write16 .ARMCPU_ARM9 m (Word.DISPSTAT.adr + 2 * 1) val =
                writePage16 m .ARMCPU_ARM9 REG_DISPx_VCOUNT val := rfl
              rw [show ((1 : Fin 2) : Nat) = 1 from rfl,high,
                writePage16_there m _ _ (there.trans held.symm)]
              exact held
          | ARMCPU_ARM7 => exact held_writeVCOUNT held keeps
  | TMxCNT i =>
      match half with
      | 0 =>
          have low : write16 proc m ((Word.TMxCNT i).adr + 2 * 0) val =
              setReload m proc (Word.TMxCNT i).adr val := by
            fin_cases i <;> cases proc <;> rfl
          rw [show ((0 : Fin 2) : Nat) = 0 from rfl,low]
          have timers := setTimers_self m proc
            { m.timers proc with
              timerReload := update (m.timers proc).timerReload
                (timerIndex (Word.TMxCNT i).adr) val }
          unfold Held Machine.regs setReload
          rw [timers]
          exact held
      | 1 =>
          have high : write16 proc m ((Word.TMxCNT i).adr + 2 * 1) val =
              writeTimer m proc i val := by
            fin_cases i <;> cases proc <;> rfl
          rw [show ((1 : Fin 2) : Nat) = 1 from rfl,high]
          exact held_writeTimer (keeps rfl) (fun _ => held)
  | POWCNT =>
      cases proc with
      | ARMCPU_ARM9 => exact Or.inl rfl
      | ARMCPU_ARM7 =>
          match half with
          | 0 =>
              have there := keeps rfl rfl
              exact Or.inr (there.symm.trans (POWCNT2_written val).symm)
          | 1 =>
              have high : write16 .ARMCPU_ARM7 m (Word.POWCNT.adr + 2 * 1) val =
                writePage16 m .ARMCPU_ARM7 (REG_POWCNT2 + 2) val := rfl
              rw [show ((1 : Fin 2) : Nat) = 1 from rfl,high]
              refine (SameWord.mapRegs m _ _ _ ?_).held held
              intro regs adr behind
              refine T1WriteWord_outside regs val ?_
              simp only [Word.backing] at behind
              omega

theorem held_writeTimer32 {i : Fin 4} (held : Held m proc (.TMxCNT i))
    (keeps : KeepsLong m proc (.TMxCNT i) val) :
    Held (writeTimer32 m proc (Word.TMxCNT i).adr val) proc (.TMxCNT i) := by
  let adr := (Word.TMxCNT i).adr
  let reload := setReload m proc adr (val.setWidth 16)
  let paged := reload.mapRegs proc fun regs => T1WriteWord regs adr (val.setWidth 16)
  obtain ⟨timer,on,mode,kept⟩ := mapRegs_timers reload proc proc fun regs =>
    T1WriteWord regs adr (val.setWidth 16)
  have reloaded : (reload.timers proc).timerReload i = val.setWidth 16 := by
    change ((m.setTimers proc _).timers proc).timerReload i = _
    rw [setTimers_self,timerIndex_TMxCNT]
    exact update_self i _ _
  have same : (reload.timers proc).timer i = (m.timers proc).timer i ∧
      (reload.timers proc).timerON i = (m.timers proc).timerON i ∧
      (reload.timers proc).timerMODE i = (m.timers proc).timerMODE i := by
    change ((m.setTimers proc _).timers proc).timer i = _ ∧
      ((m.setTimers proc _).timers proc).timerON i = _ ∧
      ((m.setTimers proc _).timers proc).timerMODE i = _
    rw [setTimers_self]
    exact ⟨rfl,rfl,rfl⟩
  have page : T1ReadWord (paged.regs proc) adr = val.setWidth 16 :=
    (congrArg (fun regs => T1ReadWord regs adr) (mapRegs_self reload proc _)).trans
      (T1ReadWord_T1WriteWord _ _ _)
  let control : u16 := (val >>> 16).setWidth 16
  have long : if control &&& 0x80 ≠ 0 then prescaler control = COUNT_UP
    else val.setWidth 16 = (m.timers proc).timer i := keeps
  have both : Held (writeTimer paged proc i control) proc (.TMxCNT i) := by
    refine held_writeTimer ?_ ?_
    · intro starts
      rw [if_pos starts] at long
      exact ⟨long,page.trans (reloaded.symm.trans (congrFun kept i).symm)⟩
    · intro stops
      rw [if_neg stops] at long
      refine ⟨page.trans (long.trans (same.1.symm.trans (congrFun timer i).symm)),?_⟩
      rw [on,mode,same.2.1,same.2.2]
      exact held.2
  unfold writeTimer32
  rw [timerIndex_TMxCNT]
  exact both

theorem held_write32 (held : Held m proc word) (keeps : KeepsLong m proc word val) :
    Held (write32 proc m word.adr val) proc word := by
  cases word with
  | IME =>
      have eq : write32 proc m Word.IME.adr val = writeIME m proc val := by
        cases proc <;> rfl
      rw [eq]
      exact held_writeIME keeps
  | IE =>
      have eq : write32 proc m Word.IE.adr val = setIE m proc val := by
        cases proc <;> rfl
      have there : val = T1ReadLong (m.regs proc) REG_IE := keeps
      rw [eq,setIE_there (there.trans held)]
      exact held
  | EXTKEYIN => exact held
  | IF => trivial
  | DISPSTAT =>
      have eq : write32 proc m Word.DISPSTAT.adr val =
          writePage32 m proc REG_DISPA_DISPSTAT val := by
        cases proc <;> rfl
      have page := mapRegs_self m proc fun regs => T1WriteLong regs REG_DISPA_DISPSTAT val
      have high := T1ReadWord_T1WriteLong_high (m.regs proc) REG_DISPA_DISPSTAT val
      rw [eq]
      refine (congrArg (fun regs => T1ReadWord regs REG_DISPx_VCOUNT) page).trans ?_
      exact high.trans keeps
  | TMxCNT i =>
      have eq : write32 proc m (Word.TMxCNT i).adr val =
          writeTimer32 m proc (Word.TMxCNT i).adr val := by
        fin_cases i <;> cases proc <;> rfl
      rw [eq]
      exact held_writeTimer32 held keeps
  | POWCNT =>
      cases proc with
      | ARMCPU_ARM9 => exact Or.inl rfl
      | ARMCPU_ARM7 =>
          have page := mapRegs_self m .ARMCPU_ARM7 fun regs =>
            T1WriteLong regs REG_POWCNT2 val
          have low := T1ReadWord_T1WriteLong_low (m.regs .ARMCPU_ARM7) REG_POWCNT2 val
          have there := held.resolve_left (by decide)
          refine Or.inr ((congrArg (fun regs => T1ReadWord regs REG_POWCNT2) page).trans ?_)
          exact low.trans ((keeps rfl).trans there)

end

/-! ### Events -/

theorem dispstat_outside (change : u16 → u16) (regs : IoMem)
    (outside : adr < REG_DISPA_DISPSTAT ∨ REG_DISPA_DISPSTAT + 2 ≤ adr) :
    dispstat change regs adr = regs adr :=
  T1WriteWord_outside regs _ outside

theorem backing_not_dispstat {word : Word} (behind : word.backing adr) :
    adr < REG_DISPA_DISPSTAT ∨ REG_DISPA_DISPSTAT + 2 ≤ adr := by
  cases word <;> simp only [Word.backing,Word.adr,REG_DISPA_DISPSTAT,REG_DISPx_VCOUNT,
    REG_TM0CNTL,REG_IME,REG_IE,REG_POWCNT2] at behind ⊢ <;> omega

theorem hstartPage_backing {word : Word} (other : word ≠ .DISPSTAT) (VCount : u32)
    (regs : IoMem) (behind : word.backing adr) : hstartPage VCount regs adr = regs adr := by
  have bits (change : u16 → u16) (regs : IoMem) : dispstat change regs adr = regs adr :=
    dispstat_outside change regs (backing_not_dispstat behind)
  have line (regs : IoMem) (val : u16) :
      T1WriteWord regs REG_DISPx_VCOUNT val adr = regs adr := by
    refine T1WriteWord_outside regs val ?_
    cases word with
    | DISPSTAT => exact absurd rfl other
    | _ => simp only [Word.backing,Word.adr,REG_DISPx_VCOUNT,REG_TM0CNTL,REG_IME,REG_IE,
        REG_POWCNT2] at behind ⊢ <;> omega
  have copy (regs : IoMem) (val : u16) : T1WriteWord regs 0x1006 val adr = regs adr := by
    refine T1WriteWord_outside regs val ?_
    have inside := Word.backing_inside behind
    cases word <;> simp only [Word.adr,REG_DISPA_DISPSTAT,REG_TM0CNTL,REG_RCNT,REG_IME,
      REG_IE,REG_IF,REG_POWCNT1] at inside <;> omega
  simp only [hstartPage,ite_apply,bits,copy,line,ite_self]

theorem hstartPage_VCOUNT (VCount : u32) (regs : IoMem) :
    T1ReadWord (hstartPage VCount regs) REG_DISPx_VCOUNT = VCount.setWidth 16 := by
  have bits (change : u16 → u16) (regs : IoMem) :
      T1ReadWord (dispstat change regs) REG_DISPx_VCOUNT = T1ReadWord regs REG_DISPx_VCOUNT :=
    T1ReadWord_T1WriteWord_of_disjoint _ _ _ _ (by decide)
  have copy (regs : IoMem) (val : u16) :
      T1ReadWord (T1WriteWord regs 0x1006 val) REG_DISPx_VCOUNT =
        T1ReadWord regs REG_DISPx_VCOUNT :=
    T1ReadWord_T1WriteWord_of_disjoint _ _ _ _ (by decide)
  have either (test : Prop) [Decidable test] (one other : IoMem) :
      T1ReadWord (if test then one else other) REG_DISPx_VCOUNT =
        if test then T1ReadWord one REG_DISPx_VCOUNT else T1ReadWord other REG_DISPx_VCOUNT :=
    apply_ite (fun page => T1ReadWord page REG_DISPx_VCOUNT) test one other
  simp only [hstartPage,either,bits,copy,T1ReadWord_T1WriteWord,ite_self]

theorem SameWord.trans {first second third : Machine} {proc : Proc} {word : Word}
    (one : SameWord first second proc word) (two : SameWord second third proc word) :
    SameWord first third proc word where
  page adr behind := (two.page adr behind).trans (one.page adr behind)
  ime here := (two.ime here).trans (one.ime here)
  ie here := (two.ie here).trans (one.ie here)
  power here cpu := (two.power here cpu).trans (one.power here cpu)
  timer i here := by
    obtain ⟨timer,on,mode⟩ := one.timer i here
    obtain ⟨timer',on',mode'⟩ := two.timer i here
    exact ⟨timer'.trans timer,on'.trans on,mode'.trans mode⟩
  vcount here := (two.vcount here).trans (one.vcount here)

theorem SameWord.bothPages (m : Machine) (proc : Proc) (word : Word)
    (kept : ∀ regs adr, word.backing adr → change regs adr = regs adr) :
    SameWord m ((m.mapRegs .ARMCPU_ARM9 change).mapRegs .ARMCPU_ARM7 change)
      proc word :=
  (SameWord.mapRegs m .ARMCPU_ARM9 proc word kept).trans
    (SameWord.mapRegs _ .ARMCPU_ARM7 proc word kept)

theorem held_hstart {m : Machine} {proc : Proc} {word : Word}
    (held : word ≠ .DISPSTAT → Held m proc word) : Held (execHardware_hstart m) proc word := by
  by_cases line : word = .DISPSTAT
  · rw [line]
    unfold execHardware_hstart
    dsimp only
    generalize (if m.VCount + 1 = 263 then 0 else m.VCount + 1) = VCount
    change T1ReadWord _ _ = _
    cases proc with
    | ARMCPU_ARM9 =>
        rw [mapRegs_other _ (by decide),mapRegs_self]
        exact hstartPage_VCOUNT VCount _
    | ARMCPU_ARM7 =>
        rw [mapRegs_self]
        exact hstartPage_VCOUNT VCount _
  · unfold execHardware_hstart
    dsimp only
    generalize (if m.VCount + 1 = 263 then 0 else m.VCount + 1) = VCount
    have lined : SameWord m { m with VCount := VCount } proc word :=
      ⟨fun _ _ => rfl, fun _ => rfl, fun _ => rfl, fun _ _ => rfl,
        fun _ _ => ⟨rfl,rfl,rfl⟩, fun here => absurd here line⟩
    have pages := SameWord.bothPages { m with VCount := VCount } proc word
      fun regs adr behind => hstartPage_backing line VCount regs behind
    exact (lined.trans pages).held (held line)

theorem held_input {m : Machine} {proc : Proc} {word : Word}
    (held : Held m proc word) (lidClosed : Bool) (input : Input) :
    Held (NDS_applyFinalInput m lidClosed input) proc word := by
  have beside : ∀ adr, word.backing adr → (adr < 0x130 ∨ 0x138 ≤ adr) := by
    intro adr behind
    cases word <;> simp only [Word.backing,Word.adr,REG_DISPx_VCOUNT,REG_TM0CNTL,REG_IME,
      REG_IE,REG_POWCNT2] at behind <;> omega
  have pad : ∀ regs adr, word.backing adr →
      T1WriteWord regs 0x130 input.pad adr = regs adr := by
    intro regs adr behind
    have outside := beside adr behind
    exact T1WriteWord_outside regs _ (by omega)
  have touched (m : Machine) : SameWord m
      { m with isTouch := input.isTouch, LidClosed := lidClosed } proc word :=
    ⟨fun _ _ => rfl, fun _ => rfl, fun _ => rfl, fun _ _ => rfl, fun _ _ => ⟨rfl,rfl,rfl⟩,
      fun _ => rfl⟩
  have padded := (SameWord.bothPages m proc word pad).trans (touched _)
  unfold NDS_applyFinalInput
  dsimp only
  refine SameWord.held (padded.trans (SameWord.mapRegs _ .ARMCPU_ARM7 proc word ?_)) held
  intro regs adr behind
  have outside := beside adr behind
  refine T1WriteWord_outside regs _ ?_
  simp only [REG_EXTKEYIN]
  omega

theorem event_setup (timers : Proc → Timers) (other proc : Proc) (num : Fin 4)
    (nds_timer : Nat) :
    let after := (Timer.event other num timers nds_timer).1 proc
    after.regs = (timers proc).regs ∧ after.timerON = (timers proc).timerON ∧
      after.timerMODE = (timers proc).timerMODE := by
  have setup := Timer.chain_setup nds_timer (timers other) true ((List.finRange 4).drop num)
  have page := Timer.chain_regs nds_timer (timers other) true ((List.finRange 4).drop num)
  unfold Timer.event
  by_cases due : Timer.isTriggered (timers other) num nds_timer
  · rw [if_pos due]
    by_cases here : proc = other
    · rw [here]
      dsimp only
      rw [update_self]
      exact ⟨page,setup.timerON,setup.timerMODE⟩
    · dsimp only
      rw [update_of_ne here]
      exact ⟨rfl,rfl,rfl⟩
  · rw [if_neg due]
    exact ⟨rfl,rfl,rfl⟩

theorem event_other (timers : Proc → Timers) {proc : Proc} (ne : proc ≠ other)
    (num : Fin 4) (nds_timer : Nat) :
    (Timer.event other num timers nds_timer).1 proc = timers proc := by
  unfold Timer.event
  split
  · exact update_of_ne ne _ _
  · rfl

theorem held_timerEvent {m : Machine} {proc : Proc} {word : Word}
    (held : Held m proc word) {num : Fin 4} (keeps : Keeps proc word m (.timer other num)) :
    Held (timerEvent m other num) proc word := by
  obtain ⟨page,on,mode⟩ := event_setup m.timers other proc num m.nds_timer
  have same : SameWord m (timerEvent m other num) proc word :=
    { page := fun adr _ => congrFun page adr
      ime := fun _ => rfl
      ie := fun _ => rfl
      power := fun _ _ => rfl
      timer := by
        intro i here
        refine ⟨?_,congrFun on i,congrFun mode i⟩
        by_cases own : other = proc
        · exact keeps own i here
        · exact congrArg (fun timers => Timers.timer timers i)
            (event_other m.timers (Ne.symm own) num m.nds_timer)
      vcount := fun _ => rfl }
  exact same.held held

theorem write08_VCount (m : Machine) (proc : Proc) (adr : Nat) (val : u8) :
    (write08 proc m adr val).VCount = m.VCount := by
  cases proc with
  | ARMCPU_ARM9 =>
      change (MMU_ARM9_write08 m adr val).VCount = _
      unfold MMU_ARM9_write08
      split_ifs <;> rfl
  | ARMCPU_ARM7 =>
      change (MMU_ARM7_write08 m adr val).VCount = _
      unfold MMU_ARM7_write08
      split_ifs <;> rfl

theorem SameWord.irq (m : Machine) (other proc : Proc) (num : Nat) (word : Word) :
    SameWord m (NDS_makeIrq m other num) proc word := by
  have timers : ((NDS_makeIrq m other num).timers proc).regs = (m.timers proc).regs ∧
      ((NDS_makeIrq m other num).timers proc).timer = (m.timers proc).timer ∧
      ((NDS_makeIrq m other num).timers proc).timerON = (m.timers proc).timerON ∧
      ((NDS_makeIrq m other num).timers proc).timerMODE =
        (m.timers proc).timerMODE := by
    unfold NDS_makeIrq
    by_cases same : proc = other
    · rw [same,setTimers_self]
      exact ⟨rfl,rfl,rfl,rfl⟩
    · rw [setTimers_other m same]
      exact ⟨rfl,rfl,rfl,rfl⟩
  obtain ⟨page,timer,on,mode⟩ := timers
  exact
    { page := fun adr _ => congrFun page adr
      ime := fun _ => rfl
      ie := fun _ => rfl
      power := fun _ _ => rfl
      timer := fun i _ => ⟨congrFun timer i,congrFun on i,congrFun mode i⟩
      vcount := fun _ => rfl }

theorem held_step (m : Machine) (proc : Proc) (word : Word) (op : Op)
    (held : Held m proc word) (keeps : Keeps proc word m op) : Held (step m op) proc word := by
  cases op with
  | write08 other target off val =>
      by_cases own : other = proc ∧ target = word
      · obtain ⟨rfl,rfl⟩ := own
        exact held_write08 held (keeps rfl rfl)
      · have only := write08_only m other target off val
        exact (only.sameWord (not_and_or.mp own)
          (fun _ => write08_VCount m other _ val)).held held
  | write16 other target half val =>
      by_cases own : other = proc ∧ target = word
      · obtain ⟨rfl,rfl⟩ := own
        exact held_write16 held (keeps (Or.inl rfl) rfl)
      · have only := write16_only m other target half val
        by_cases line : target = .DISPSTAT ∧ other = .ARMCPU_ARM7 ∧ word = .DISPSTAT
        · obtain ⟨rfl,rfl,rfl⟩ := line
          match half with
          | 0 => exact (only.sameWord (not_and_or.mp own) (fun _ => rfl)).held held
          | 1 => exact held_writeVCOUNT held (keeps (Or.inr ⟨rfl,rfl⟩) rfl)
        · refine (only.sameWord (not_and_or.mp own) ?_).held held
          intro here
          refine only.vcount ?_
          by_cases there : target = .DISPSTAT
          · refine Or.inr ?_
            cases other with
            | ARMCPU_ARM9 => rfl
            | ARMCPU_ARM7 => exact absurd ⟨there,rfl,here⟩ line
          · exact Or.inl there
  | write32 other target val =>
      by_cases own : other = proc ∧ target = word
      · obtain ⟨rfl,rfl⟩ := own
        exact held_write32 held (keeps rfl rfl)
      · have only := write32_only m other target val
        refine (only.sameWord (not_and_or.mp own) (fun _ => ?_)).held held
        by_cases there : target = .DISPSTAT
        · rw [there]
          cases other <;> rfl
        · exact only.vcount (Or.inl there)
  | hstart => exact held_hstart (fun _ => held)
  | hblank =>
      exact (SameWord.bothPages m proc word fun regs adr behind =>
        dispstat_outside _ regs (backing_not_dispstat behind)).held held
  | irq other num =>
      exact (SameWord.irq m other proc num word).held held
  | gxstat gxstat =>
      exact SameWord.held ⟨fun _ _ => rfl, fun _ => rfl, fun _ => rfl, fun _ _ => rfl,
        fun _ _ => ⟨rfl,rfl,rfl⟩, fun _ => rfl⟩ held
  | input lidClosed input => exact held_input held lidClosed input
  | timer other num => exact held_timerEvent held keeps
  | pass cycles =>
      exact SameWord.held ⟨fun _ _ => rfl, fun _ => rfl, fun _ => rfl, fun _ _ => rfl,
        fun _ _ => ⟨rfl,rfl,rfl⟩, fun _ => rfl⟩ held
  | ensata query =>
      exact SameWord.held ⟨fun _ _ => rfl, fun _ => rfl, fun _ => rfl, fun _ _ => rfl,
        fun _ _ => ⟨rfl,rfl,rfl⟩, fun _ => rfl⟩ held

theorem held_started (proc : Proc) (word : Word)
    (starts : ¬(proc = .ARMCPU_ARM7 ∧ word = .EXTKEYIN)) : Held started proc word := by
  refine held_hstart (fun other => ?_)
  cases word with
  | DISPSTAT => exact absurd rfl other
  | TMxCNT i => cases proc <;> fin_cases i <;> exact ⟨rfl,nofun⟩
  | EXTKEYIN =>
      cases proc with
      | ARMCPU_ARM9 => rfl
      | ARMCPU_ARM7 => exact absurd ⟨rfl,rfl⟩ starts
  | IME => cases proc <;> rfl
  | IE => cases proc <;> rfl
  | IF => trivial
  | POWCNT =>
      cases proc with
      | ARMCPU_ARM9 => exact Or.inl rfl
      | ARMCPU_ARM7 => exact Or.inr rfl

/-- What a run has to keep for a register to read the same at every width in
every state, and what it comes down to in one state. -/
theorem registers_agree_along_runs (proc : Proc) (word : Word) (ops : List Op)
    (starts : ¬(proc = .ARMCPU_ARM7 ∧ word = .EXTKEYIN))
    (keeps : Run.Guarded step (Keeps proc word) started ops) :
    Run.Always step
        (fun m => ReadsPure m proc word → ReadsAgree m proc word) started ops ∧
      ∀ m, ReadsPure m proc word →
        (ReadsAgree m proc word ↔ Backed m proc word) := by
  have held : Run.Always step (fun m => Held m proc word) started ops :=
    Run.always_of_guarded
      (fun m op held keeps => held_step m proc word op held keeps)
      (held_started proc word starts) keeps
  refine ⟨held.mono ?_,fun m pure => agree_iff_backed m proc word pure⟩
  intro m held pure
  exact (agree_iff_backed m proc word pure).mpr held.backed

theorem registers_agree_enabled :
    Run.Always step
        (fun m => ReadsPure m .ARMCPU_ARM9 .IME →
          ReadsAgree m .ARMCPU_ARM9 .IME) started
        [.write32 .ARMCPU_ARM9 .IME 1,.pass 5,.hstart] ∧
      ∀ m, ReadsPure m .ARMCPU_ARM9 .IME →
        (ReadsAgree m .ARMCPU_ARM9 .IME ↔ Backed m .ARMCPU_ARM9 .IME) :=
  registers_agree_along_runs .ARMCPU_ARM9 .IME
    [.write32 .ARMCPU_ARM9 .IME 1,.pass 5,.hstart] nofun
    ⟨fun _ _ => Nat.le_refl 1, trivial, trivial, trivial⟩

/-- IE is not in the page, a running timer is only in its sixteen-bit read, and
EXTKEYIN has its touch bit only there. -/
theorem registers_disagree :
    ¬ReadsAgree (Run.final step started [.write32 .ARMCPU_ARM9 .IE 1]) .ARMCPU_ARM9 .IE ∧
      ¬ReadsAgree
          (Run.final step started [.write32 .ARMCPU_ARM9 (.TMxCNT 0) 0x00800000,.pass 200])
          .ARMCPU_ARM9 (.TMxCNT 0) ∧
      ¬ReadsAgree started .ARMCPU_ARM7 .EXTKEYIN := by
  refine ⟨?_,?_,?_⟩
  · intro agree
    exact absurd agree.low (by decide +kernel)
  · intro agree
    exact absurd agree.long (by decide +kernel)
  · intro agree
    exact absurd agree.high (by decide +kernel)

end Desmume.Mmu
