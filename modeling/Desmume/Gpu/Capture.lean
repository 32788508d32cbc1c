/-
What the display capture does to memory, and when its busy flag is cleared.

One call stores the rectangle it is asked for, inside its bank, and reads an
existing line, unless the FIFO is captured 128 pixels wide or source A is not
the composed line.
-/

import Desmume.Gpu.Line

namespace Desmume.Gpu

def Captures (vid : VideoMemory) (cap : DISPCAPCNT) (l : Nat) : Prop :=
  cap.enabled = true ∧ isLCDC vid cap.writeBlock ∧ l < cap.capy

instance (vid : VideoMemory) (cap : DISPCAPCNT) (l : Nat) : Decidable (Captures vid cap l) :=
  inferInstanceAs (Decidable (_ ∧ _ ∧ _))

/-- The address of pixel `i` of the captured row. -/
def captureAddress (cap : DISPCAPCNT) (l i : Nat) : Nat :=
  cap.writeBlock.val * 0x20000 +
    (cap.writeOffset.val * 0x8000 + l * 2 * cap.capx.width) % 0x20000 + 2 * i

/-- A half-word lies in one of the four blocks of 128 KB. -/
def InBlock (block : Fin 4) (addr : Nat) : Prop :=
  block.val * 0x20000 ≤ addr ∧ addr + 2 ≤ (block.val + 1) * 0x20000

instance (block : Fin 4) (addr : Nat) : Decidable (InBlock block addr) :=
  inferInstanceAs (Decidable (_ ∧ _))

/-- What one call must do, given the line the layers were composed to. -/
structure CaptureSound (vid : VideoMemory) (cap : DISPCAPCNT) (l : Nat) (composed : Row)
    (capture : Capture) : Prop where
  rectangle : capture.writes.map Prod.fst =
    if Captures vid cap l then (List.range cap.capx.width).map (captureAddress cap l) else []
  inside : ∀ write ∈ capture.writes, InBlock cap.writeBlock write.1
  vramRead : ∀ addr ∈ capture.vramRead,
    (isLCDC vid cap.readBlock ∧ InBlock cap.readBlock addr) ∨
      (¬isLCDC vid cap.readBlock ∧ Vram.blank_memory ≤ addr ∧
        addr + 2 ≤ Vram.blank_memory + Vram.blank_memory_size)
  pointer : ∀ line, capture.sourceA = some line → ∃ row, line = .pixels row
  sourceA : ∀ row, capture.sourceA = some (.pixels row) → ∀ x < 256, row x = composed x

/-- The captures that go well: the FIFO only at full width, source A only as the
composed line, and only where the display mode leaves that line alone. -/
def CaptureCondition (gpu : GPU) (cap : DISPCAPCNT) : Prop :=
  (cap.capSrc = 1 → cap.srcB = 0 ∨ cap.capx = .w256) ∧
    (cap.capSrc ≠ 1 → cap.srcA = 0 ∧ (gpu.dispMode = 1 ∨ gpu.dispMode = 3))

theorem width_cases (capx : CAPX) : capx.width = 128 ∨ capx.width = 256 := by
  cases capx with
  | w128 => exact Or.inl rfl
  | w256 => exact Or.inr rfl

theorem cap_dst_adr_pixel (cap : DISPCAPCNT) (l i : Nat) :
    cap.cap_dst_adr l + 2 * i = captureAddress cap l i := by
  unfold DISPCAPCNT.cap_dst_adr captureAddress
  rw [Nat.mul_assoc l 2]
  omega

theorem captureAddress_inBlock (cap : DISPCAPCNT) (l : Nat) {i : Nat}
    (inside : i < cap.capx.width) : InBlock cap.writeBlock (captureAddress cap l i) := by
  unfold InBlock captureAddress
  rcases width_cases cap.capx with narrow | wide
  · rw [narrow] at inside ⊢
    omega
  · rw [wide] at inside ⊢
    omega

theorem fst_lineWrites (base n : Nat) (pixels : Row) :
    (lineWrites base n pixels).map Prod.fst = (List.range n).map (base + 2 * ·) := by
  unfold lineWrites
  rw [List.map_map]
  rfl

theorem fst_captureWrites (cap : DISPCAPCNT) (l : Nat) (pixels : Row) :
    (lineWrites (cap.cap_dst_adr l) cap.capx.width pixels).map Prod.fst =
      (List.range cap.capx.width).map (captureAddress cap l) := by
  rw [fst_lineWrites]
  exact List.map_congr_left (fun i _member => cap_dst_adr_pixel cap l i)

theorem inside_captureWrites (cap : DISPCAPCNT) (l : Nat) (pixels : Row) :
    ∀ write ∈ lineWrites (cap.cap_dst_adr l) cap.capx.width pixels,
      InBlock cap.writeBlock write.1 := by
  intro write member
  obtain ⟨i,bound,rfl⟩ := List.mem_map.mp member
  have block := captureAddress_inBlock cap l (List.mem_range.mp bound)
  rw [← cap_dst_adr_pixel] at block
  exact block

theorem vramAddresses_inside (cap : DISPCAPCNT) (vid : VideoMemory) (l : Nat) :
    ∀ addr ∈ cap.vramAddresses vid l,
      (isLCDC vid cap.readBlock ∧ InBlock cap.readBlock addr) ∨
        (¬isLCDC vid cap.readBlock ∧ Vram.blank_memory ≤ addr ∧
          addr + 2 ≤ Vram.blank_memory + Vram.blank_memory_size) := by
  intro addr member
  obtain ⟨i,bound,rfl⟩ := List.mem_map.mp member
  have small : i < 256 := by
    have inside := List.mem_range.mp bound
    rcases width_cases cap.capx with narrow | wide <;> omega
  unfold DISPCAPCNT.cap_src
  by_cases mapped : isLCDC vid cap.readBlock
  · refine Or.inl ⟨mapped,?_⟩
    rw [if_pos mapped]
    unfold InBlock DISPCAPCNT.cap_src_adr
    omega
  · refine Or.inr ⟨mapped,?_⟩
    rw [if_neg mapped]
    unfold Vram.blank_memory_size
    omega

section

variable {cfg : Config} {vid : VideoMemory} {cap : DISPCAPCNT} {fifo : DispFifo}
variable {tempScanline : Row} {l : Nat}

theorem captureLine_direct (source : cap.capSrc = 0) (screen : cap.srcA = 0) :
    captureLine cfg vid cap fifo tempScanline l =
      { sourceA := some (.pixels tempScanline), vramRead := [],
        writes := lineWrites (cap.cap_dst_adr l) cap.capx.width (setAlphaBit tempScanline),
        fifo := fifo } := by
  unfold captureLine
  rw [source]
  exact if_pos screen

theorem captureLine_direct3D (source : cap.capSrc = 0) (other : cap.srcA ≠ 0) :
    captureLine cfg vid cap fifo tempScanline l =
      if cfg.Render3D then
        { sourceA := some .uninitialised, vramRead := [],
          writes := lineWrites (cap.cap_dst_adr l) cap.capx.width SourceLine.uninitialised.read,
          fifo := fifo }
      else .none fifo := by
  unfold captureLine
  rw [source]
  exact if_neg other

theorem captureLine_vram (source : cap.capSrc = 1) (vram : cap.srcB = 0) :
    captureLine cfg vid cap fifo tempScanline l =
      { sourceA := none, vramRead := cap.vramAddresses vid l,
        writes := lineWrites (cap.cap_dst_adr l) cap.capx.width
          (setAlphaBit (readLine vid.ARM9_LCD (cap.cap_src vid l))),
        fifo := fifo } := by
  unfold captureLine
  rw [source]
  exact if_pos vram

theorem captureLine_fifo (source : cap.capSrc = 1) (other : cap.srcB ≠ 0) :
    captureLine cfg vid cap fifo tempScanline l =
      { sourceA := none, vramRead := [],
        writes := lineWrites (cap.cap_dst_adr l) 256 (fifoLine (fifo.recvWords 128).1),
        fifo := (fifo.recvWords 128).2 } := by
  unfold captureLine
  rw [source]
  exact if_neg other

theorem captureLine_blend (notA : cap.capSrc ≠ 0) (notB : cap.capSrc ≠ 1) :
    (captureLine cfg vid cap fifo tempScanline l).sourceA =
        some (if cap.srcA = 0 then .pixels tempScanline else .null) ∧
      (captureLine cfg vid cap fifo tempScanline l).vramRead =
        (if cap.srcB = 0 then cap.vramAddresses vid l else []) ∧
      ∃ pixels, (captureLine cfg vid cap fifo tempScanline l).writes =
        lineWrites (cap.cap_dst_adr l) cap.capx.width pixels := by
  have blended : cap.capSrc = 2 ∨ cap.capSrc = 3 := by omega
  unfold captureLine
  rcases blended with two | three
  · rw [two]
    exact ⟨rfl,rfl,_,rfl⟩
  · rw [three]
    exact ⟨rfl,rfl,_,rfl⟩

end

theorem displayedRow_composed (gpu : GPU) (vid : VideoMemory) (l : Nat) (composed : Row)
    (kept : gpu.dispMode = 1 ∨ gpu.dispMode = 3) : displayedRow gpu vid l composed = composed := by
  unfold displayedRow
  rcases kept with one | three
  · rw [one]
  · rw [three]

theorem displayedRow_replaced (gpu : GPU) (vid : VideoMemory) (l : Nat) (first second : Row)
    (notOne : gpu.dispMode ≠ 1) (notThree : gpu.dispMode ≠ 3) :
    displayedRow gpu vid l first = displayedRow gpu vid l second := by
  have replaced : gpu.dispMode = 0 ∨ gpu.dispMode = 2 := by omega
  unfold displayedRow
  rcases replaced with zero | two
  · rw [zero]
  · rw [two]

section

variable (cfg : Config) (gpu : GPU) (vid : VideoMemory) (cap : DISPCAPCNT)
variable (fifo : DispFifo) (l : Nat)

/-- The call made for a line composed to `composed`. -/
def captureOf (composed : Row) : Capture :=
  captureCall cfg vid cap fifo (displayedRow gpu vid l composed) l

theorem captureOf_idle (idle : ¬Captures vid cap l) (composed : Row) :
    captureOf cfg gpu vid cap fifo l composed = .none fifo := if_neg idle

theorem captureOf_active (active : Captures vid cap l) (composed : Row) :
    captureOf cfg gpu vid cap fifo l composed =
      captureLine cfg vid cap fifo (displayedRow gpu vid l composed) l := if_pos active

theorem sound_idle (idle : ¬Captures vid cap l) (composed : Row) :
    CaptureSound vid cap l composed (captureOf cfg gpu vid cap fifo l composed) := by
  rw [captureOf_idle cfg gpu vid cap fifo l idle]
  constructor
  · rw [if_neg idle]
    rfl
  · exact fun _write member => nomatch member
  · exact fun _address member => nomatch member
  · exact fun _line same => nomatch same
  · exact fun _row same => nomatch same

theorem sound_of_condition (active : Captures vid cap l) (good : CaptureCondition gpu cap)
    (composed : Row) :
    CaptureSound vid cap l composed (captureOf cfg gpu vid cap fifo l composed) := by
  rw [captureOf_active cfg gpu vid cap fifo l active]
  by_cases onlyB : cap.capSrc = 1
  · by_cases vram : cap.srcB = 0
    · rw [captureLine_vram onlyB vram]
      constructor
      · rw [if_pos active]
        exact fst_captureWrites cap l _
      · exact inside_captureWrites cap l _
      · exact vramAddresses_inside cap vid l
      · exact fun _line same => nomatch same
      · exact fun _row same => nomatch same
    · have wide := (good.1 onlyB).resolve_left vram
      have full : 256 = cap.capx.width := by rw [wide]; rfl
      rw [captureLine_fifo onlyB vram,full]
      constructor
      · rw [if_pos active]
        exact fst_captureWrites cap l _
      · exact inside_captureWrites cap l _
      · exact fun _address member => nomatch member
      · exact fun _line same => nomatch same
      · exact fun _row same => nomatch same
  · obtain ⟨screen,kept⟩ := good.2 onlyB
    rw [displayedRow_composed gpu vid l composed kept]
    have same (row : Row) (given : some (SourceLine.pixels composed) = some (.pixels row)) :
        ∀ x < 256, row x = composed x := by
      cases given
      exact fun _x _inside => rfl
    by_cases onlyA : cap.capSrc = 0
    · rw [captureLine_direct onlyA screen]
      constructor
      · rw [if_pos active]
        exact fst_captureWrites cap l _
      · exact inside_captureWrites cap l _
      · exact fun _address member => nomatch member
      · intro line given
        exact ⟨composed,(Option.some.inj given).symm⟩
      · exact same
    · obtain ⟨source,reads,pixels,writes⟩ :=
        @captureLine_blend cfg vid cap fifo composed l onlyA onlyB
      rw [if_pos screen] at source
      constructor
      · rw [writes,if_pos active]
        exact fst_captureWrites cap l pixels
      · rw [writes]
        exact inside_captureWrites cap l pixels
      · intro addr member
        rw [reads] at member
        by_cases vram : cap.srcB = 0
        · rw [if_pos vram] at member
          exact vramAddresses_inside cap vid l addr member
        · rw [if_neg vram] at member
          cases member
      · intro line given
        rw [source] at given
        exact ⟨composed,(Option.some.inj given).symm⟩
      · intro row given
        rw [source] at given
        exact same row given

theorem wide_of_sound (active : Captures vid cap l) (onlyB : cap.capSrc = 1)
    (fromFifo : cap.srcB ≠ 0) (composed : Row) (sound : CaptureSound vid cap l composed
      (captureOf cfg gpu vid cap fifo l composed)) : cap.capx = .w256 := by
  have lengths := congrArg List.length sound.rectangle
  rw [captureOf_active cfg gpu vid cap fifo l active,captureLine_fifo onlyB fromFifo,
    if_pos active,fst_lineWrites,List.length_map,List.length_map,List.length_range,
    List.length_range] at lengths
  cases shape : cap.capx with
  | w256 => rfl
  | w128 =>
      rw [shape] at lengths
      cases lengths

theorem screen_of_sound (active : Captures vid cap l) (withA : cap.capSrc ≠ 1) (composed : Row)
    (sound : CaptureSound vid cap l composed
      (captureOf cfg gpu vid cap fifo l composed)) : cap.srcA = 0 := by
  by_contra other
  have pointer := sound.pointer
  rw [captureOf_active cfg gpu vid cap fifo l active] at pointer
  by_cases onlyA : cap.capSrc = 0
  · rw [captureLine_direct3D onlyA other] at pointer
    by_cases render : cfg.Render3D = true
    · rw [if_pos render] at pointer
      obtain ⟨row,impossible⟩ := pointer .uninitialised rfl
      cases impossible
    · have none := sound.rectangle
      rw [captureOf_active cfg gpu vid cap fifo l active,
        captureLine_direct3D onlyA other,if_neg render,if_pos active] at none
      have lengths := congrArg List.length none
      rw [List.length_map,List.length_map,List.length_range] at lengths
      change 0 = cap.capx.width at lengths
      rcases width_cases cap.capx with narrow | wide <;> omega
  · have source := (@captureLine_blend cfg vid cap fifo
      (displayedRow gpu vid l composed) l onlyA withA).1
    rw [if_neg other] at source
    obtain ⟨row,impossible⟩ := pointer .null source
    cases impossible

theorem sourceA_of_screen (active : Captures vid cap l) (withA : cap.capSrc ≠ 1)
    (screen : cap.srcA = 0) (composed : Row) :
    (captureOf cfg gpu vid cap fifo l composed).sourceA =
      some (.pixels (displayedRow gpu vid l composed)) := by
  rw [captureOf_active cfg gpu vid cap fifo l active]
  by_cases onlyA : cap.capSrc = 0
  · rw [captureLine_direct onlyA screen]
  · rw [(captureLine_blend onlyA withA).1,if_pos screen]

theorem mode_of_sound (active : Captures vid cap l) (withA : cap.capSrc ≠ 1)
    (sound : ∀ composed, CaptureSound vid cap l composed
      (captureOf cfg gpu vid cap fifo l composed)) : gpu.dispMode = 1 ∨ gpu.dispMode = 3 := by
  by_contra neither
  obtain ⟨notOne,notThree⟩ := not_or.mp neither
  -- the line composed to the complement of what is displayed tells the two apart
  let shown := displayedRow gpu vid l (fun _ => 0)
  let composed : Row := fun x => ~~~(shown x)
  have screen := screen_of_sound cfg gpu vid cap fifo l active withA composed
    (sound composed)
  have source := sourceA_of_screen cfg gpu vid cap fifo l active withA screen composed
  have same := (sound composed).sourceA _ source 0 (by omega)
  rw [displayedRow_replaced gpu vid l composed (fun _ => 0) notOne notThree] at same
  have bit := congrArg (fun color : u16 => color.getLsbD 0) same
  change (shown 0).getLsbD 0 = (~~~(shown 0)).getLsbD 0 at bit
  rw [BitVec.getLsbD_not] at bit
  simp at bit

theorem captureSound_iff :
    (∀ composed, CaptureSound vid cap l composed
      (captureOf cfg gpu vid cap fifo l composed)) ↔
      (Captures vid cap l → CaptureCondition gpu cap) := by
  constructor
  · intro sound active
    constructor
    · intro onlyB
      by_cases fromVram : cap.srcB = 0
      · exact Or.inl fromVram
      · exact Or.inr (wide_of_sound cfg gpu vid cap fifo l active onlyB fromVram
          (fun _ => 0) (sound _))
    · intro withA
      exact ⟨screen_of_sound cfg gpu vid cap fifo l active withA (fun _ => 0) (sound _),
        mode_of_sound cfg gpu vid cap fifo l active withA sound⟩
  · intro good composed
    by_cases active : Captures vid cap l
    · exact sound_of_condition cfg gpu vid cap fifo l active (good active) composed
    · exact sound_idle cfg gpu vid cap fifo l active composed

end

end Desmume.Gpu
