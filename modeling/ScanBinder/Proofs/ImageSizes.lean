import Mathlib.Tactic.Ring
import ScanBinder.Proofs.PaletteColours

/-!
# Sizes of images

Whatever its format, a file gives the width and the height of its image in numbers of 32 bits at
most, and the decoders hand them on as they are. So the raster that is loaded from a file is less
than 2³² wide and high.
-/

namespace ScanBinder.Proofs
open FileTree

/-- A width and a height of 32 bits. -/
def HasWordSize (width height : Nat) : Prop :=
  width < 4294967296 ∧ height < 4294967296

/-! ## Numbers -/

lemma bigEndian_lt (bs : Bytes) : Bytes.bigEndian bs < 256 ^ bs.length := by
  have hfold : ∀ n, bs.foldl (fun n b => n * 256 + b.toNat) n < (n + 1) * 256 ^ bs.length := by
    induction bs with
    | nil => simp
    | cons b bs ih =>
      intro n
      have hb := b.toNat_lt
      calc (b :: bs).foldl (fun n b => n * 256 + b.toNat) n
          < (n * 256 + b.toNat + 1) * 256 ^ bs.length := ih _
        _ ≤ (n + 1) * 256 * 256 ^ bs.length := Nat.mul_le_mul_right _ (by omega)
        _ = (n + 1) * 256 ^ (b :: bs).length := by
          rw [List.length_cons]
          ring
  have hzero := hfold 0
  rwa [Nat.zero_add, Nat.one_mul] at hzero

lemma bigEndian_lt_of_length_le {bs : Bytes} {n : Nat} (h : bs.length ≤ n) :
    Bytes.bigEndian bs < 256 ^ n :=
  (bigEndian_lt bs).trans_le (Nat.pow_le_pow_right (by decide) h)

lemma littleEndian_lt_of_length_le {bs : Bytes} {n : Nat} (h : bs.length ≤ n) :
    Bytes.littleEndian bs < 256 ^ n :=
  bigEndian_lt_of_length_le (by rwa [List.length_reverse])

lemma length_of_split? {n : Nat} {bs front rest : Bytes}
    (h : Bytes.split? n bs = some (front, rest)) : front.length = n := by
  unfold Bytes.split? at h
  split_ifs at h with hn
  cases h
  rw [List.length_take]
  omega

/-! ## Pictures -/

lemma ofPixels?_size {α : Type} {width height : Nat} {pixels : List α} {r : Raster α}
    (h : Raster.ofPixels? width height pixels = some r) : r.width = width ∧ r.height = height := by
  unfold Raster.ofPixels? at h
  split_ifs at h
  cases h
  exact ⟨rfl, rfl⟩

lemma ofSamples?_size {layout : Layout} {width height : Nat} {bs : Bytes} {picture : Picture}
    (h : Picture.ofSamples? layout width height bs = some picture) :
    picture.width = width ∧ picture.height = height := by
  cases layout <;>
    · obtain ⟨raster, hraster, rfl⟩ := Option.map_eq_some_iff.mp h
      exact ofPixels?_size hraster

lemma raster_size (l : Loaded) :
    l.raster.width = l.picture.width ∧ l.raster.height = l.picture.height := by
  obtain ⟨picture, paletteBased⟩ := l
  cases paletteBased <;> cases picture <;> exact ⟨rfl, rfl⟩

/-! ## Formats with a fixed header -/

lemma screen_size {bs rest : Bytes} {screen : Gif.Screen}
    (h : Gif.Screen.read bs = .ok (screen, rest)) : HasWordSize screen.width screen.height := by
  unfold Gif.Screen.read at h
  obtain ⟨⟨_, _⟩, _, h⟩ := bind_eq_ok.mp h
  obtain ⟨_, h⟩ := check_eq_ok.mp h
  obtain ⟨⟨descriptor, _⟩, _, h⟩ := bind_eq_ok.mp h
  obtain ⟨⟨_, _⟩, _, h⟩ := bind_eq_ok.mp h
  cases h
  have htwo : ∀ bs : Bytes, Bytes.littleEndian (bs.take 2) < 256 ^ 2 := fun bs =>
    littleEndian_lt_of_length_le (List.length_take_le 2 bs)
  exact ⟨(htwo _).trans (by decide), (htwo _).trans (by decide)⟩

lemma gif_size {content : Bytes} {picture : Picture} (h : Gif.decode content = .ok picture) :
    HasWordSize picture.width picture.height := by
  obtain ⟨screen, rest, pixels, raster, hscreen, hraster, rfl⟩ := gif_decode_eq_ok h
  obtain ⟨hwidth, hheight⟩ := ofPixels?_size hraster
  have hsize := screen_size hscreen
  rwa [← hwidth, ← hheight] at hsize

lemma png_size {content : Bytes} {picture : Picture} (h : Png.decode content = .ok picture) :
    HasWordSize picture.width picture.height := by
  obtain ⟨header, rest, transparent, samples, hheader, hpicture⟩ := png_decode_eq_ok h
  obtain ⟨start, data, tail, _, _, hdata⟩ := read_eq_ok hheader
  obtain ⟨width, height, _, hwidthLength, hheightLength, hwidth, hheight, _⟩ := ofData_eq_ok hdata
  obtain ⟨hpictureWidth, hpictureHeight⟩ := ofSamples?_size hpicture
  rw [hpictureWidth, hpictureHeight, hwidth, hheight]
  exact ⟨bigEndian_lt_of_length_le hwidthLength.le, bigEndian_lt_of_length_le hheightLength.le⟩

/-! ## What a computation gives -/

/-- Whatever a computation gives, if it gives anything, has a property. -/
def Gives {ε α : Type} (P : α → Prop) (x : Except ε α) : Prop :=
  ∀ a, x = .ok a → P a

section
variable {ε α β : Type} {P : β → Prop} {x : Except ε α} {y z : Except ε β}
  {f : α → Except ε β} {e : ε} {c : Prop} [Decidable c]

lemma Gives.bind {Q : α → Prop} (hx : Gives Q x) (hf : ∀ a, Q a → Gives P (f a)) :
    Gives P (x >>= f) := by
  intro b hb
  obtain ⟨a, ha, hb⟩ := bind_eq_ok.mp hb
  exact hf a (hx a ha) b hb

/-- What comes first does not matter. -/
lemma gives_after (hf : ∀ a, Gives P (f a)) : Gives P (x >>= f) :=
  Gives.bind (Q := fun _ => True) (fun _ _ => trivial) fun a _ => hf a

lemma gives_ok {b : β} (h : P b) : Gives P (.ok b : Except ε β) := by
  rintro _ ⟨⟩
  exact h

lemma gives_error : Gives P (.error e : Except ε β) := by
  rintro _ ⟨⟩

lemma gives_ite (hy : c → Gives P y) (hz : ¬c → Gives P z) : Gives P (if c then y else z) := by
  split_ifs with hc
  · exact hy hc
  · exact hz hc

/-- Behind a check that ends the computation. -/
lemma gives_check (hy : ¬c → Gives P y) : Gives P (if c then throw e >>= f else y) :=
  gives_ite (fun _ => gives_error) hy

end

/-! ## Bitmaps -/

/-- The same for readers of bitmaps. -/
def Reads {α : Type} (P : α → Prop) (x : Bmp.Reader α) : Prop :=
  ∀ bs, Gives (fun r => P r.1) (x bs)

section
variable {α β : Type} {P : β → Prop} {x : Bmp.Reader α} {y z : Bmp.Reader β}
  {f : α → Bmp.Reader β} {e : Bmp.Flaw} {c : Prop} [Decidable c]

lemma Reads.bind {Q : α → Prop} (hx : Reads Q x) (hf : ∀ a, Q a → Reads P (f a)) :
    Reads P (x >>= f) :=
  fun bs => (hx bs).bind fun r hr => hf r.1 hr r.2

lemma reads_after (hf : ∀ a, Reads P (f a)) : Reads P (x >>= f) :=
  fun _ => gives_after fun r => hf r.1 r.2

lemma reads_pure {b : β} (h : P b) : Reads P (pure b) :=
  fun _ => gives_ok h

lemma reads_ite (hy : c → Reads P y) (hz : ¬c → Reads P z) : Reads P (if c then y else z) := by
  split_ifs with hc
  · exact hy hc
  · exact hz hc

lemma reads_throw : Reads P (throw e) :=
  fun _ => gives_error

lemma reads_check (hy : ¬c → Reads P y) : Reads P (if c then throw e >>= f else y) :=
  reads_ite (fun _ _ => gives_error) hy

end

lemma reads_unsigned (n : Nat) : Reads (· < 256 ^ n) (Bmp.unsigned n) := by
  intro bs r hr
  obtain ⟨⟨front, rest⟩, hbytes, hr⟩ := bind_eq_ok.mp hr
  cases hr
  unfold Bmp.bytes at hbytes
  split at hbytes
  · next hsplit =>
    cases hbytes
    exact littleEndian_lt_of_length_le (length_of_split? hsplit).le
  · cases hbytes

lemma reads_signed : Reads (fun n => -2147483648 ≤ n ∧ n < 2147483648) Bmp.signed :=
  (reads_unsigned 4).bind fun n hn => reads_pure (by split_ifs <;> omega)

lemma reads_core : Reads (fun f => HasWordSize f.width f.height) Bmp.readCore := by
  unfold Bmp.readCore
  refine (reads_unsigned 2).bind fun width hwidth => ?_
  refine (reads_unsigned 2).bind fun height hheight => ?_
  have hsize : HasWordSize width height := ⟨hwidth.trans (by decide), hheight.trans (by decide)⟩
  refine reads_check fun _ => reads_after fun planes => reads_check fun _ => ?_
  refine reads_after fun bits => reads_ite (fun _ => ?_) fun _ => ?_
  · exact reads_after fun form => reads_pure hsize
  · refine reads_ite (fun _ => ?_) fun _ => ?_
    · exact reads_after fun form => reads_pure hsize
    · exact reads_after fun form => reads_pure hsize

lemma reads_info (size : Nat) :
    Reads (fun f => HasWordSize f.width f.height) (Bmp.readInfo size) := by
  unfold Bmp.readInfo
  refine reads_signed.bind fun width hwidth => reads_signed.bind fun height hheight => ?_
  have hsize : HasWordSize width.natAbs height.natAbs := ⟨by omega, by omega⟩
  refine reads_check fun _ => reads_check fun _ => reads_check fun _ => reads_check fun _ => ?_
  refine reads_after fun planes => reads_check fun _ => reads_after fun bits => ?_
  refine reads_after fun compression => reads_check fun _ => reads_after fun plan => ?_
  refine reads_after fun _ => reads_after fun coloursUsed => reads_after fun _ => ?_
  cases plan with
  | ready form => exact reads_after fun _ => reads_pure hsize
  | masked n => exact reads_after fun _ => reads_after fun _ => reads_pure hsize

lemma bmpHeader_size (file : Bytes) :
    Gives (fun h => HasWordSize h.width h.height) (Bmp.Header.read file) := by
  unfold Bmp.Header.read
  refine gives_after fun ⟨⟨dataOffset, size⟩, bs⟩ => ?_
  have hfields : Reads (fun f => HasWordSize f.width f.height) (Bmp.readFields size) :=
    reads_ite (fun _ => reads_core) fun _ => reads_ite (fun _ => reads_info size) fun _ =>
      reads_ite (fun _ => reads_throw) fun _ => reads_throw
  refine (hfields bs).bind fun ⟨f, _⟩ hsize => gives_ite (fun _ => ?_) fun _ => ?_
  · exact gives_after fun _ => gives_after fun _ => gives_after fun _ => gives_ok hsize
  · exact gives_after fun _ => gives_ok hsize

/-- The end of a decoder: the samples are laid out in a picture of the size that was read. -/
lemma gives_ofSamples? {ε : Type} {e : ε} {layout : Layout} {width height : Nat} {samples : Bytes}
    (h : HasWordSize width height) :
    Gives (fun p => HasWordSize p.width p.height)
      (match Picture.ofSamples? layout width height samples with
        | some picture => pure picture
        | none => throw e : Except ε Picture) := by
  split
  · next hpicture =>
    obtain ⟨hwidth, hheight⟩ := ofSamples?_size hpicture
    exact gives_ok (by rwa [hwidth, hheight])
  · exact gives_error

lemma bmp_size (content : Bytes) :
    Gives (fun p => HasWordSize p.width p.height) (Bmp.decode content) := by
  unfold Bmp.decode
  refine (bmpHeader_size content).bind fun h hsize => gives_check fun _ => ?_
  exact gives_after fun rows => gives_ofSamples? hsize

/-! ## TIFF files -/

lemma long_lt (d : Tiff.Directory) (tag : Tiff.Tag) : Gives (· < 4294967296) (d.long tag) := by
  have hvalue : Gives (fun n? => ∀ n ∈ n?, n < 4294967296) (d.long? tag) := by
    unfold Tiff.Directory.long? Tiff.Directory.value?
    split
    · exact gives_ok (by simp)
    · refine gives_after fun ns => ?_
      split
      · refine gives_ite (fun _ => gives_error) fun _ => gives_ite (fun hn => gives_ok ?_) fun _ =>
          gives_error
        rintro _ ⟨⟩
        exact hn
      · exact gives_error
  unfold Tiff.Directory.long
  refine hvalue.bind fun n? hn => ?_
  cases n? with
  | none => exact gives_error
  | some n => exact gives_ok (hn n rfl)

lemma description_size (d : Tiff.Directory) :
    Gives (fun d => HasWordSize d.width d.height) d.describe := by
  unfold Tiff.Directory.describe
  refine (long_lt d .width).bind fun width hwidth => ?_
  refine (long_lt d .height).bind fun height hheight => ?_
  refine gives_check fun _ => gives_after fun photometric? => ?_
  dsimp only
  split
  · refine gives_after fun photometric => gives_after fun packing => gives_after fun samples => ?_
    refine gives_check fun _ => gives_after fun format => gives_after fun bits => ?_
    refine gives_after fun predictor => gives_after fun separate => gives_after fun extra => ?_
    exact gives_after fun _ => gives_after fun chunks => gives_ok ⟨hwidth, hheight⟩
  · exact gives_error

lemma tiff_size (content : Bytes) :
    Gives (fun p => HasWordSize p.width p.height) (Tiff.decode content) := by
  unfold Tiff.decode
  refine gives_after fun file => (description_size file).bind fun d hsize => ?_
  refine gives_after fun colour => gives_after fun formats? => ?_
  -- The check of the formats is made or not, what follows is the same.
  cases formats?
  case' some => refine gives_after fun _ => ?_
  all_goals
    dsimp only
    split
    · exact gives_error
    · refine gives_check fun _ => gives_check fun _ => gives_check fun _ => ?_
      exact gives_after fun rows => gives_ofSamples? hsize

/-! ## JPEG files -/

/-- The size of the frame, if it is known, fits into words. -/
def FrameFits (t : Jpeg.Tables) : Prop :=
  ∀ f ∈ t.frame, HasWordSize f.width f.height

lemma word_lt (bs : Bytes) : Gives (fun r => r.1 < 4294967296) (Jpeg.word bs) := by
  unfold Jpeg.word Jpeg.take
  split
  · next r hsplit =>
    obtain ⟨front, rest⟩ := r
    have hlt := bigEndian_lt_of_length_le (length_of_split? hsplit).le
    exact gives_ok (hlt.trans (by decide))
  · exact gives_error

lemma addFrame_frameFits (t : Jpeg.Tables) (passes : Bool) (bs : Bytes) :
    Gives (fun r => FrameFits r.1) (t.addFrame passes bs) := by
  unfold Jpeg.Tables.addFrame
  refine gives_check fun _ => gives_after fun ⟨length, bs⟩ => gives_after fun ⟨precision, bs⟩ => ?_
  refine gives_check fun _ => (word_lt bs).bind fun ⟨height, bs⟩ hheight => ?_
  refine (word_lt bs).bind fun ⟨width, bs⟩ hwidth => gives_check fun _ => ?_
  refine gives_after fun ⟨n, bs⟩ => gives_check fun _ => gives_check fun _ => ?_
  refine gives_after fun ⟨components, bs⟩ => gives_ok ?_
  rintro _ ⟨⟩
  exact ⟨hwidth, hheight⟩

section
variable {t : Jpeg.Tables} (h : FrameFits t)
include h

lemma addSteps_frameFits (fuel left : Nat) (bs : Bytes) :
    Gives (fun r => FrameFits r.1) (Jpeg.Tables.addSteps fuel left t bs) := by
  induction fuel generalizing left t bs with
  | zero => exact gives_ok h
  | succ fuel ih =>
    have hnext : ∀ steps, FrameFits { t with steps } := fun _ => h
    unfold Jpeg.Tables.addSteps
    refine gives_ite (fun _ => gives_ok h) fun _ => gives_after fun ⟨info, bs⟩ => ?_
    refine gives_check fun _ => ?_
    dsimp only
    refine gives_ite (fun _ => ?_) fun _ => gives_ite (fun _ => ?_) fun _ => gives_error
    · exact gives_after fun _ => gives_check fun _ => ih (hnext _) _ _
    · exact gives_after fun _ => gives_check fun _ => ih (hnext _) _ _

lemma addCodes_frameFits (fuel left : Nat) (bs : Bytes) :
    Gives (fun r => FrameFits r.1) (Jpeg.Tables.addCodes fuel left t bs) := by
  induction fuel generalizing left t bs with
  | zero => exact gives_ok h
  | succ fuel ih =>
    unfold Jpeg.Tables.addCodes
    refine gives_ite (fun _ => gives_ok h) fun _ => gives_ite (fun _ => gives_error) fun _ => ?_
    refine gives_after fun ⟨info, bs⟩ => gives_check fun _ => gives_check fun _ => ?_
    refine gives_after fun ⟨counts, bs⟩ => gives_check fun _ => gives_check fun _ => ?_
    refine gives_after fun ⟨symbols, bs⟩ => gives_check fun _ => ih ?_ _ _
    split_ifs <;> exact h

lemma addEditor_frameFits (bs : Bytes) : Gives (fun r => FrameFits r.1) (t.addEditor bs) := by
  unfold Jpeg.Tables.addEditor
  obtain ⟨length, bs⟩ := Jpeg.Tables.wordOrZero bs
  refine gives_check fun _ => gives_after fun name => gives_ite (fun _ => gives_ok h) fun _ => ?_
  refine gives_check fun _ => gives_ite (fun _ => gives_ok h) fun _ => ?_
  refine gives_ite (fun _ => gives_ok h) fun _ => ?_
  exact gives_ite (fun _ => gives_ok h) fun _ => gives_error

lemma passNotes_frameFits (complaint : String) (notes : List Jpeg.Tables.Note) (bs : Bytes) :
    Gives (fun r => FrameFits r.1) (t.passNotes complaint notes bs) := by
  unfold Jpeg.Tables.passNotes
  obtain ⟨length, bs⟩ := Jpeg.Tables.wordOrZero bs
  refine gives_check fun _ => gives_after fun note? => ?_
  cases note? with
  | none => exact gives_ok h
  | some note => exact gives_after fun _ => gives_ok h

lemma addMaker_frameFits (bs : Bytes) : Gives (fun r => FrameFits r.1) (t.addMaker bs) := by
  unfold Jpeg.Tables.addMaker
  refine gives_after fun ⟨length, bs⟩ => gives_check fun _ => ?_
  refine gives_ite (fun _ => gives_ok h) fun _ => ?_
  exact gives_after fun ⟨name, bs⟩ => gives_ok h

lemma addRestart_frameFits (bs : Bytes) : Gives (fun r => FrameFits r.1) (t.addRestart bs) := by
  unfold Jpeg.Tables.addRestart
  exact gives_after fun ⟨length, bs⟩ => gives_check fun _ => gives_after fun ⟨n, bs⟩ => gives_ok h

lemma pass_frameFits (complaint : Nat → String) (bs : Bytes) :
    Gives (fun r => FrameFits r.1) (t.pass complaint bs) := by
  unfold Jpeg.Tables.pass
  exact gives_after fun ⟨length, bs⟩ => gives_check fun _ => gives_ok h

lemma add_frameFits (marker : UInt8) (bs : Bytes) :
    Gives (fun r => FrameFits r.1) (t.add marker bs) := by
  unfold Jpeg.Tables.add
  refine gives_ite (fun _ => addFrame_frameFits t _ _) fun _ => ?_
  refine gives_ite (fun _ => addFrame_frameFits t _ _) fun _ => ?_
  refine gives_ite (fun _ => gives_after fun ⟨length, bs⟩ => gives_check fun _ =>
    addCodes_frameFits h _ _ _) fun _ => ?_
  refine gives_ite (fun _ => gives_error) fun _ => gives_ite (fun _ => gives_error) fun _ => ?_
  refine gives_ite (fun _ => gives_after fun ⟨length, bs⟩ => gives_check fun _ =>
    addSteps_frameFits h _ _ _) fun _ => ?_
  refine gives_ite (fun _ => gives_error) fun _ => ?_
  refine gives_ite (fun _ => addRestart_frameFits h _) fun _ => ?_
  refine gives_ite (fun _ => addMaker_frameFits h _) fun _ => ?_
  refine gives_ite (fun _ => passNotes_frameFits h _ _ _) fun _ => ?_
  refine gives_ite (fun _ => passNotes_frameFits h _ _ _) fun _ => ?_
  refine gives_ite (fun _ => passNotes_frameFits h _ _ _) fun _ => ?_
  refine gives_ite (fun _ => addEditor_frameFits h _) fun _ => ?_
  exact gives_ite (fun _ => pass_frameFits h _ _) fun _ => pass_frameFits h _ _

lemma readScan_frameFits (bs : Bytes) : Gives (fun r => FrameFits r.1) (t.readScan bs) := by
  unfold Jpeg.Tables.readScan
  refine gives_after fun ⟨length, bs⟩ => gives_after fun ⟨n, bs⟩ => gives_check fun _ => ?_
  refine gives_check fun _ => ?_
  split
  · exact gives_error
  · next frame hframe =>
    refine gives_after fun ⟨places, components, bs⟩ => gives_after fun ⟨first, bs⟩ => ?_
    refine gives_after fun ⟨last, bs⟩ => gives_after fun ⟨bits, bs⟩ => gives_check fun _ => ?_
    refine gives_check fun _ => gives_check fun _ => gives_check fun _ => gives_ok ?_
    rintro _ ⟨⟩
    exact h frame hframe

lemma readToScan_frameFits (fuel : Nat) (last : UInt8) (bs : Bytes) :
    Gives (fun r => FrameFits r.1) (Jpeg.Tables.readToScan fuel last t bs) := by
  induction fuel generalizing last t bs with
  | zero => exact gives_error
  | succ fuel ih =>
    cases bs with
    | nil => exact gives_error
    | cons m bs =>
      unfold Jpeg.Tables.readToScan
      refine gives_ite (fun _ => ih h _ _) fun _ => gives_after fun ⟨last, m, bs⟩ => ?_
      refine gives_ite (fun _ => ih h _ _) fun _ => ?_
      refine gives_ite (fun _ => readScan_frameFits h _) fun _ => ?_
      exact (add_frameFits h m bs).bind fun ⟨t, bs⟩ ht => ih ht _ _

end

lemma jpeg_size (content : Bytes) :
    Gives (fun p => HasWordSize p.width p.height) (Jpeg.decode content) := by
  have hempty : FrameFits .empty := by
    rintro _ ⟨⟩
  have hfile : Gives (fun r => FrameFits r.1) (Jpeg.Tables.ofFile content) := by
    unfold Jpeg.Tables.ofFile
    exact gives_after fun ⟨start, bs⟩ => gives_check fun _ => readToScan_frameFits hempty _ _ _
  have hcontent : Gives (fun c => HasWordSize c.frame.width c.frame.height)
      (Jpeg.Content.ofFile Jpeg.memoryLimit content) := by
    unfold Jpeg.Content.ofFile
    refine hfile.bind fun ⟨t, scan, data⟩ ht => ?_
    dsimp only
    split
    · exact gives_error
    · next frame hframe =>
      refine gives_check fun _ => gives_after fun _ => gives_after fun _ => gives_ok ?_
      exact ht frame hframe
  unfold Jpeg.decode
  refine hcontent.bind fun c hsize => gives_ok ?_
  split_ifs <;> exact hsize

/-! ## Loading -/

lemma decodeAs_size (format : ImageFormat) (content : Bytes) :
    Gives (fun p => HasWordSize p.width p.height) (decodeAs format content) := by
  intro picture h
  unfold decodeAs at h
  split at h
  · exact png_size (mapError_eq_ok.mp h)
  · exact gif_size (mapError_eq_ok.mp h)
  · exact bmp_size content picture (mapError_eq_ok.mp h)
  · exact tiff_size content picture (mapError_eq_ok.mp h)
  · exact jpeg_size content picture (mapError_eq_ok.mp h)
  · cases h

/-- The raster that is loaded from a file is less than 2³² wide and high. -/
theorem loadRgb_size (t : FileTree) (p : Path) :
    Gives (fun image => HasWordSize image.width image.height) (t.loadRgb p) := by
  intro image h
  obtain ⟨loaded, hload, rfl⟩ := map_eq_ok.mp h
  obtain ⟨content, _, hload⟩ := bind_eq_ok.mp hload
  obtain ⟨decoded, hdecoded, rfl⟩ := map_eq_ok.mp hload
  obtain ⟨hwidth, hheight⟩ := raster_size ⟨decoded.picture, isPaletteBased decoded.format content⟩
  rw [hwidth, hheight]
  exact decodeAs_size decoded.format content _ (decodeFile_eq_ok hdecoded).2

end ScanBinder.Proofs
