/-
Registers read at three widths.

A register agrees when the bytes of the page are the register.
-/

import Desmume.Mmu.Registers

namespace Desmume.Mmu

open Timer (Timers read_timer write_timer prescaler COUNT_UP)

/-- The 32-bit words of the registers. -/
inductive Word
  | DISPSTAT
  | TMxCNT (i : Fin 4)
  | EXTKEYIN
  | IME
  | IE
  | IF
  | POWCNT
  deriving DecidableEq, Repr

def Word.adr : Word → Nat
  | DISPSTAT => REG_DISPA_DISPSTAT
  | TMxCNT i => REG_TM0CNTL + 4 * i
  | EXTKEYIN => REG_RCNT
  | IME => REG_IME
  | IE => REG_IE
  | IF => REG_IF
  | POWCNT => REG_POWCNT1

/-- The reads of one word at one instant are parts of one value. -/
structure ReadsAgree (m : Machine) (proc : Proc) (word : Word) : Prop where
  long : read32 proc m word.adr =
    read16 proc m (word.adr + 2) ++ read16 proc m word.adr
  low : read16 proc m word.adr =
    read08 proc m (word.adr + 1) ++ read08 proc m word.adr
  high : read16 proc m (word.adr + 2) =
    read08 proc m (word.adr + 3) ++ read08 proc m (word.adr + 2)

/-- No read of the word changes the machine: the ARM9's read of VCOUNT answers an
Ensata query. -/
def ReadsPure (m : Machine) (proc : Proc) (word : Word) : Prop :=
  ¬(m.ensataQuery = true ∧ proc = .ARMCPU_ARM9 ∧ word = .DISPSTAT)

def Backed (m : Machine) (proc : Proc) : Word → Prop
  | .DISPSTAT => T1ReadWord (m.regs proc) REG_DISPx_VCOUNT = m.VCount.setWidth 16
  | .TMxCNT i =>
      T1ReadWord (m.regs proc) (REG_TM0CNTL + 4 * i) = (m.timers proc).timer i ∧
        read_timer (m.timers proc) m.nds_timer i = (m.timers proc).timer i
  | .EXTKEYIN =>
      proc = .ARMCPU_ARM9 ∨
        m.regs proc (REG_EXTKEYIN + 1) = 0 ∧
          (m.regs proc REG_EXTKEYIN).getLsbD 6 = !m.isTouch
  | .IME => T1ReadLong (m.regs proc) REG_IME = m.reg_IME proc
  | .IE => T1ReadLong (m.regs proc) REG_IE = m.reg_IE proc
  | .IF => True
  | .POWCNT =>
      proc = .ARMCPU_ARM9 ∨
        T1ReadWord (m.regs proc) REG_POWCNT2 = (POWCNT2 m.power2).setWidth 16

theorem eq_append_iff {upper lower : Nat} (whole : BitVec (upper + lower))
    (high : BitVec upper) (low : BitVec lower) :
    whole = high ++ low ↔
      (whole >>> lower).setWidth upper = high ∧ whole.setWidth lower = low := by
  constructor
  · rintro rfl
    constructor
    · apply BitVec.eq_of_getLsbD_eq
      intro i inside
      have above : ¬lower + i < lower := by omega
      simp only [BitVec.getLsbD_setWidth,BitVec.getLsbD_ushiftRight,BitVec.getLsbD_append,
        inside,above,decide_true,Bool.true_and,if_false,Nat.add_sub_cancel_left]
    · apply BitVec.eq_of_getLsbD_eq
      intro i inside
      simp only [BitVec.getLsbD_setWidth,BitVec.getLsbD_append,inside,decide_true,
        Bool.true_and,if_true]
  · rintro ⟨rfl,rfl⟩
    apply BitVec.eq_of_getLsbD_eq
    intro i inside
    rw [BitVec.getLsbD_append]
    by_cases below : i < lower
    · simp [below]
    · have near : i - lower < upper := by omega
      have back : lower + (i - lower) = i := by omega
      simp [below,near,back]

theorem eq_append_words_iff (long : u32) (high low : u16) :
    long = high ++ low ↔ (long >>> 16).setWidth 16 = high ∧ long.setWidth 16 = low :=
  eq_append_iff long high low

theorem eq_append_bytes_iff (word : u16) (high low : u8) :
    word = high ++ low ↔ (word >>> 8).setWidth 8 = high ∧ word.setWidth 8 = low :=
  eq_append_iff word high low

theorem setWidth_shift_byte (long : u32) (half : Nat) (shift : Nat) (inside : shift ≤ 8) :
    (((long >>> half).setWidth 16 : u16) >>> shift).setWidth 8 =
      ((long >>> (half + shift)).setWidth 8 : u8) := by
  apply BitVec.eq_of_getLsbD_eq
  intro i bound
  have below : shift + i < 16 := by omega
  simp [bound,below,Nat.add_assoc]

theorem word_parts (long : u32) (half : Nat) :
    ((long >>> half).setWidth 16 : u16) =
      (long >>> (half + 8)).setWidth 8 ++ ((long >>> half).setWidth 8 : u8) := by
  rw [eq_append_bytes_iff]
  refine ⟨setWidth_shift_byte long half 8 (by decide),?_⟩
  apply BitVec.eq_of_getLsbD_eq
  intro i inside
  simp [inside]

section

variable (m : Machine) (proc : Proc)

theorem reads_IF : ReadsAgree m proc .IF := by
  have long : read32 proc m REG_IF = gen_IF m proc := by cases proc <;> rfl
  have word : read16 proc m REG_IF = (gen_IF m proc).setWidth 16 := by
    cases proc <;> rfl
  have upper : read16 proc m (REG_IF + 2) = (gen_IF m proc >>> 16).setWidth 16 := by
    cases proc <;> rfl
  have bytes : read08 proc m REG_IF = (gen_IF m proc).setWidth 8 ∧
      read08 proc m (REG_IF + 1) = (gen_IF m proc >>> 8).setWidth 8 ∧
      read08 proc m (REG_IF + 2) = (gen_IF m proc >>> 16).setWidth 8 ∧
      read08 proc m (REG_IF + 3) = (gen_IF m proc >>> 24).setWidth 8 := by
    cases proc <;> exact ⟨rfl,rfl,rfl,rfl⟩
  obtain ⟨first,second,third,fourth⟩ := bytes
  constructor
  · exact long.trans (((eq_append_words_iff _ _ _).mpr ⟨upper.symm,word.symm⟩))
  · have parts := word_parts (gen_IF m proc) 0
    rw [BitVec.ushiftRight_zero] at parts
    exact word.trans (parts.trans (by rw [show Word.IF.adr = REG_IF from rfl,first,second]))
  · have parts := word_parts (gen_IF m proc) 16
    exact upper.trans (parts.trans (by rw [show Word.IF.adr = REG_IF from rfl,third,fourth]))

theorem agree_iff_page {word : Word} (page : ∀ off < 4, read08 proc m (word.adr + off) =
      m.regs proc (word.adr + off)) :
    ReadsAgree m proc word ↔
      read32 proc m word.adr = T1ReadLong (m.regs proc) word.adr ∧
        read16 proc m word.adr = T1ReadWord (m.regs proc) word.adr ∧
        read16 proc m (word.adr + 2) =
          T1ReadWord (m.regs proc) (word.adr + 2) := by
  have first : read08 proc m word.adr = m.regs proc word.adr := page 0 (by omega)
  have second := page 1 (by omega)
  have third := page 2 (by omega)
  have fourth := page 3 (by omega)
  constructor
  · rintro ⟨long,low,high⟩
    rw [first,second] at low
    rw [third,fourth] at high
    rw [low,high] at long
    exact ⟨long,low,high⟩
  · rintro ⟨long,low,high⟩
    refine ⟨?_,?_,?_⟩
    · rw [long,low,high]
      rfl
    · rw [low,first,second]
      rfl
    · rw [high,third,fourth]
      rfl

theorem whole_iff_page (regs : IoMem) (adr : Nat) (reg : u32) :
    (reg = T1ReadLong regs adr ∧ reg.setWidth 16 = T1ReadWord regs adr ∧
      (reg >>> 16).setWidth 16 = T1ReadWord regs (adr + 2)) ↔
        T1ReadLong regs adr = reg := by
  constructor
  · rintro ⟨long,-,-⟩
    exact long.symm
  · intro long
    obtain ⟨high,low⟩ := (eq_append_words_iff reg _ _).mp long.symm
    exact ⟨long.symm,low,high⟩

theorem reads_IME : ReadsAgree m proc .IME ↔ Backed m proc .IME := by
  have page : ∀ off < 4, read08 proc m (Word.IME.adr + off) =
      m.regs proc (Word.IME.adr + off) := by
    intro off inside
    interval_cases off <;> cases proc <;> rfl
  have long : read32 proc m Word.IME.adr = m.reg_IME proc := by cases proc <;> rfl
  have low : read16 proc m Word.IME.adr = (m.reg_IME proc).setWidth 16 := by
    cases proc <;> rfl
  have high : read16 proc m (Word.IME.adr + 2) =
      T1ReadWord (m.regs proc) (Word.IME.adr + 2) := by
    cases proc <;> rfl
  have whole := whole_iff_page (m.regs proc) Word.IME.adr (m.reg_IME proc)
  rw [agree_iff_page m proc page,long,low,high]
  constructor
  · rintro ⟨same,-,-⟩
    exact same.symm
  · intro same
    obtain ⟨whole,word,-⟩ := whole.mpr same
    exact ⟨whole,word,rfl⟩

theorem reads_IE : ReadsAgree m proc .IE ↔ Backed m proc .IE := by
  have page : ∀ off < 4, read08 proc m (Word.IE.adr + off) =
      m.regs proc (Word.IE.adr + off) := by
    intro off inside
    interval_cases off <;> cases proc <;> rfl
  have long : read32 proc m Word.IE.adr = m.reg_IE proc := by cases proc <;> rfl
  have low : read16 proc m Word.IE.adr = (m.reg_IE proc).setWidth 16 := by
    cases proc <;> rfl
  have high : read16 proc m (Word.IE.adr + 2) =
      ((m.reg_IE proc) >>> 16).setWidth 16 := by
    cases proc <;> rfl
  rw [agree_iff_page m proc page,long,low,high]
  exact whole_iff_page (m.regs proc) Word.IE.adr (m.reg_IE proc)

theorem POWCNT1_parts (power1 : Power1) :
    readreg_POWCNT1 power1 REG_POWCNT1 =
        (0 : u16) ++ ((readreg_POWCNT1 power1 REG_POWCNT1).setWidth 16 : u16) ∧
      (readreg_POWCNT1 power1 REG_POWCNT1).setWidth 16 =
        (readreg_POWCNT1_8 power1 (REG_POWCNT1 + 1)).setWidth 8 ++
          ((readreg_POWCNT1_8 power1 REG_POWCNT1).setWidth 8 : u8) := by
  obtain ⟨lcd,gpuMain,gfx3d_render,gfx3d_geometry,gpuSub,dispswap⟩ := power1
  revert lcd gpuMain gfx3d_render gfx3d_geometry gpuSub dispswap
  decide +kernel

theorem reads_POWCNT : ReadsAgree m proc .POWCNT ↔ Backed m proc .POWCNT := by
  cases proc with
  | ARMCPU_ARM9 =>
      refine iff_of_true ?_ (Or.inl rfl)
      have long : read32 .ARMCPU_ARM9 m Word.POWCNT.adr =
        readreg_POWCNT1 m.power1 REG_POWCNT1 := rfl
      have word : read16 .ARMCPU_ARM9 m Word.POWCNT.adr =
        (readreg_POWCNT1 m.power1 REG_POWCNT1).setWidth 16 := rfl
      have upper : read16 .ARMCPU_ARM9 m (Word.POWCNT.adr + 2) = 0 := by
        change (((0 : u32) ||| ((0 : u32) <<< 8)).setWidth 16 : u16) = 0
        decide
      have bytes : read08 .ARMCPU_ARM9 m (Word.POWCNT.adr + 3) = 0 ∧
          read08 .ARMCPU_ARM9 m (Word.POWCNT.adr + 2) = 0 := ⟨rfl,rfl⟩
      obtain ⟨whole,low⟩ := POWCNT1_parts m.power1
      refine ⟨?_,low,?_⟩
      · rw [long,upper,word]
        exact whole
      · rw [upper,bytes.1,bytes.2]
        decide
  | ARMCPU_ARM7 =>
      have page : ∀ off < 4, read08 .ARMCPU_ARM7 m (Word.POWCNT.adr + off) =
          m.regs .ARMCPU_ARM7 (Word.POWCNT.adr + off) := by
        intro off inside
        interval_cases off <;> rfl
      rw [agree_iff_page m _ page]
      constructor
      · rintro ⟨-,low,-⟩
        exact Or.inr low.symm
      · intro backed
        have low := backed.resolve_left (by decide)
        exact ⟨rfl,low.symm,rfl⟩

theorem reads_EXTKEYIN : ReadsAgree m proc .EXTKEYIN ↔ Backed m proc .EXTKEYIN := by
  have page : ∀ off < 4, read08 proc m (Word.EXTKEYIN.adr + off) =
      m.regs proc (Word.EXTKEYIN.adr + off) := by
    intro off inside
    interval_cases off <;> cases proc <;> rfl
  rw [agree_iff_page m proc page]
  cases proc with
  | ARMCPU_ARM9 => exact iff_of_true ⟨rfl,rfl,rfl⟩ (Or.inl rfl)
  | ARMCPU_ARM7 =>
      have shown : ∀ (low : u8) (touch : Bool),
          let ret : u16 := low.setWidth 16
          let made := if touch then ret &&& ~~~64 else ret ||| 64
          (made >>> 8).setWidth 8 = (0 : u8) ∧
            (made.setWidth 8 = low ↔ low.getLsbD 6 = !touch) := by
        decide +kernel
      obtain ⟨upper,lower⟩ := shown (m.regs .ARMCPU_ARM7 REG_EXTKEYIN) m.isTouch
      constructor
      · rintro ⟨-,-,high⟩
        obtain ⟨above,below⟩ := (eq_append_bytes_iff _ _ _).mp high
        exact Or.inr ⟨above.symm.trans upper,lower.mp below⟩
      · intro backed
        obtain ⟨above,below⟩ := backed.resolve_left (by decide)
        refine ⟨rfl,rfl,?_⟩
        exact (eq_append_bytes_iff _ _ _).mpr ⟨upper.trans above.symm,lower.mpr below⟩

theorem reads_DISPSTAT (pure : ReadsPure m proc .DISPSTAT) :
    ReadsAgree m proc .DISPSTAT ↔ Backed m proc .DISPSTAT := by
  have long : read32 proc m Word.DISPSTAT.adr =
      T1ReadLong (m.regs proc) REG_DISPA_DISPSTAT := by
    cases proc <;> rfl
  have low : read16 proc m Word.DISPSTAT.adr =
      T1ReadWord (m.regs proc) REG_DISPA_DISPSTAT := by
    cases proc <;> rfl
  have high : read16 proc m (Word.DISPSTAT.adr + 2) = m.VCount.setWidth 16 := by
    cases proc with
    | ARMCPU_ARM9 =>
        have query : ¬m.ensataQuery = true := fun query => pure ⟨query,rfl,rfl⟩
        exact if_neg query
    | ARMCPU_ARM7 => rfl
  have bytes : read08 proc m (Word.DISPSTAT.adr + 3) =
        ((m.VCount >>> 8) &&& 0xFF).setWidth 8 ∧
      read08 proc m (Word.DISPSTAT.adr + 2) = (m.VCount &&& 0xFF).setWidth 8 := by
    cases proc <;> exact ⟨rfl,rfl⟩
  have parts : (m.VCount.setWidth 16 : u16) =
      ((m.VCount >>> 8) &&& 0xFF).setWidth 8 ++
        ((m.VCount &&& 0xFF).setWidth 8 : u8) := by
    have halves := word_parts m.VCount 0
    rw [BitVec.ushiftRight_zero] at halves
    refine halves.trans ?_
    have masked : ∀ val : u32, (val &&& 0xFF).setWidth 8 = (val.setWidth 8 : u8) := by
      intro val
      apply BitVec.eq_of_getLsbD_eq
      intro i inside
      interval_cases i <;> simp
    rw [masked,masked]
  constructor
  · rintro ⟨whole,-,-⟩
    rw [long,low,high] at whole
    exact ((eq_append_words_iff _ _ _).mp whole).1.symm.trans
      ((eq_append_words_iff _ _ _).mp rfl).1 |>.symm
  · intro backed
    refine ⟨?_,?_,?_⟩
    · rw [long,low,high,← backed]
      rfl
    · rw [low]
      cases proc <;> rfl
    · rw [high,bytes.1,bytes.2]
      exact parts

theorem timer_above_control (timer control : u16) :
    (timer.setWidth 32 : u32) ||| ((control.setWidth 32 : u32) <<< 16) = control ++ timer := by
  rw [eq_append_words_iff]
  constructor
  · apply BitVec.eq_of_getLsbD_eq
    intro i inside
    have within : 16 + i < 32 := by omega
    have near : i < 32 := by omega
    simp [inside,within,near]
  · apply BitVec.eq_of_getLsbD_eq
    intro i inside
    simp [inside]

theorem reads_TMxCNT (i : Fin 4) : ReadsAgree m proc (.TMxCNT i) ↔ Backed m proc (.TMxCNT i) := by
  have page : ∀ off < 4, read08 proc m ((Word.TMxCNT i).adr + off) =
      m.regs proc ((Word.TMxCNT i).adr + off) := by
    intro off inside
    fin_cases i <;> interval_cases off <;> cases proc <;> rfl
  have long : read32 proc m (Word.TMxCNT i).adr =
      T1ReadWord (m.regs proc) ((Word.TMxCNT i).adr + 2) ++
        (m.timers proc).timer i := by
    refine Eq.trans ?_ (timer_above_control _ _)
    fin_cases i <;> cases proc <;> rfl
  have low : read16 proc m (Word.TMxCNT i).adr =
      read_timer (m.timers proc) m.nds_timer i := by
    fin_cases i <;> cases proc <;> rfl
  have high : read16 proc m ((Word.TMxCNT i).adr + 2) =
      T1ReadWord (m.regs proc) ((Word.TMxCNT i).adr + 2) := by
    fin_cases i <;> cases proc <;> rfl
  rw [agree_iff_page m proc page,long,low,high]
  constructor
  · rintro ⟨whole,word,-⟩
    have page := ((eq_append_words_iff _ _ _).mp whole).2
    have timer := ((eq_append_words_iff _
      (T1ReadWord (m.regs proc) ((Word.TMxCNT i).adr + 2))
      ((m.timers proc).timer i)).mp rfl).2
    have kept := page.symm.trans timer
    exact ⟨kept,word.trans kept⟩
  · rintro ⟨kept,shown⟩
    refine ⟨?_,?_,rfl⟩
    · rw [← kept]
      rfl
    · rw [shown,← kept]
      rfl

theorem agree_iff_backed (word : Word) (pure : ReadsPure m proc word) :
    ReadsAgree m proc word ↔ Backed m proc word := by
  cases word with
  | DISPSTAT => exact reads_DISPSTAT m proc pure
  | TMxCNT i => exact reads_TMxCNT m proc i
  | EXTKEYIN => exact reads_EXTKEYIN m proc
  | IME => exact reads_IME m proc
  | IE => exact reads_IE m proc
  | IF => exact iff_of_true (reads_IF m proc) trivial
  | POWCNT => exact reads_POWCNT m proc

end

end Desmume.Mmu
