import Mathlib.Data.List.Infix
import ScanBinder.Image.Load
import ScanBinder.Proofs.TreeWrites

/-!
# Colours of palettes

Whether a file takes its colours from a palette can be told from its first bytes, and the
decoders agree: what they accept has the header that they would read again. The picture of
such a file loses its alpha and keeps its colours; the alpha of any other coloured picture
lays it over white.
-/

namespace ScanBinder.Proofs
open FileTree

/-! ## First bytes -/

def pngSignature : Bytes := [0x89, 0x50, 0x4E, 0x47, 0x0D, 0x0A, 0x1A, 0x0A]

def IsGif (content : Bytes) : Prop :=
  Bytes.ofText "GIF87a" <+: content ∨ Bytes.ofText "GIF89a" <+: content

/-- The header of a PNG file is its first chunk. Its colour type stands behind the signature,
the length and the type of the chunk, the width, the height and the bit depth. -/
def colourTypeByte? (content : Bytes) : Option UInt8 :=
  content[8 + 4 + 4 + 4 + 4 + 1]?

/-- A file whose colours come from a palette: a GIF, or a PNG of colour type 3. -/
def HasPalette (content : Bytes) : Prop :=
  IsGif content ∨ pngSignature <+: content ∧ colourTypeByte? content = some 3

lemma ofContent?_of_gif {content : Bytes} (h : IsGif content) :
    ImageFormat.ofContent? content = some .gif := by
  rcases h with ⟨rest, rfl⟩ | ⟨rest, rfl⟩ <;> rfl

lemma ofContent?_of_png {content : Bytes} (h : pngSignature <+: content) :
    ImageFormat.ofContent? content = some .png := by
  obtain ⟨rest, rfl⟩ := h
  rfl

lemma not_gif_of_png {content : Bytes} (h : pngSignature <+: content) : ¬IsGif content := by
  intro hgif
  have hformat := ofContent?_of_gif hgif
  rw [ofContent?_of_png h] at hformat
  cases hformat

/-! ## What the decoders accept -/

lemma bind_eq_ok {ε α β : Type} {x : Except ε α} {f : α → Except ε β} {b : β} :
    (x >>= f) = .ok b ↔ ∃ a, x = .ok a ∧ f a = .ok b := by
  cases x with
  | error e => simp [bind, Except.bind]
  | ok a => simp [bind, Except.bind]

/-- A check that ends a computation lets it go on only if it does not apply. -/
lemma check_eq_ok {ε α β : Type} {c : Prop} [Decidable c] {e : ε} {f : α → Except ε β}
    {x : Except ε β} {b : β} :
    (if c then throw e >>= f else x) = .ok b ↔ ¬c ∧ x = .ok b := by
  by_cases hc : c
  · simp [hc, bind, Except.bind, throw, throwThe, MonadExceptOf.throw]
  · simp [hc]

lemma split?_eq_some {n : Nat} {bs front rest : Bytes}
    (h : Bytes.split? n bs = some (front, rest)) : bs = front ++ rest := by
  unfold Bytes.split? at h
  split_ifs at h
  cases h
  exact (List.take_append_drop n bs).symm

lemma gifTake_eq_ok {n : Nat} {bs front rest : Bytes} (h : Gif.take n bs = .ok (front, rest)) :
    bs = front ++ rest := by
  unfold Gif.take at h
  split at h
  · next hsplit =>
    cases h
    exact split?_eq_some hsplit
  · cases h

lemma gif_of_screen {bs : Bytes} {r : Gif.Screen × Bytes} (h : Gif.Screen.read bs = .ok r) :
    IsGif bs := by
  unfold Gif.Screen.read at h
  obtain ⟨⟨signature, rest⟩, htake, h⟩ := bind_eq_ok.mp h
  have hknown := (check_eq_ok.mp h).1
  have hbs := gifTake_eq_ok htake
  have hsignature : signature = Bytes.ofText "GIF87a" ∨ signature = Bytes.ofText "GIF89a" := by
    have hnames : Gif.signatures = [Bytes.ofText "GIF87a", Bytes.ofText "GIF89a"] := by decide
    simpa [hnames, or_iff_not_imp_left] using hknown
  rcases hsignature with rfl | rfl
  · exact .inl ⟨rest, hbs.symm⟩
  · exact .inr ⟨rest, hbs.symm⟩

lemma gif_decode_eq_ok {content : Bytes} {picture : Picture}
    (h : Gif.decode content = .ok picture) :
    ∃ screen rest pixels raster, Gif.Screen.read content = .ok (screen, rest) ∧
      Raster.ofPixels? screen.width screen.height pixels = some raster ∧
      picture = .rgba8 raster := by
  unfold Gif.decode at h
  obtain ⟨⟨screen, rest⟩, hscreen, h⟩ := bind_eq_ok.mp h
  obtain ⟨first, _, h⟩ := bind_eq_ok.mp h
  obtain ⟨_, h⟩ := check_eq_ok.mp h
  cases first with
  | none => cases h
  | some frame =>
    obtain ⟨start, _, h⟩ := bind_eq_ok.mp h
    obtain ⟨_, h⟩ := check_eq_ok.mp h
    obtain ⟨indices, _, h⟩ := bind_eq_ok.mp h
    dsimp only at h
    split at h
    · next raster hraster =>
      cases h
      exact ⟨screen, rest, _, raster, hscreen, hraster, rfl⟩
    · cases h

lemma gif_of_decode {content : Bytes} {picture : Picture} (h : Gif.decode content = .ok picture) :
    IsGif content ∧ ∃ raster, picture = .rgba8 raster := by
  obtain ⟨screen, rest, pixels, raster, hscreen, _, rfl⟩ := gif_decode_eq_ok h
  exact ⟨gif_of_screen hscreen, raster, rfl⟩

lemma png_of_signature {bs rest : Bytes} (h : Png.afterSignature bs = .ok rest) :
    bs = pngSignature ++ rest := by
  unfold Png.afterSignature at h
  split at h
  · next a b c d more =>
    split_ifs at h with hfirst
    split at h
    · next e f g i tail =>
      split_ifs at h with hsecond
      cases h
      simp only [not_not, List.cons.injEq, and_true] at hfirst hsecond
      obtain ⟨rfl, rfl, rfl, rfl⟩ := hfirst
      obtain ⟨rfl, rfl, rfl, rfl⟩ := hsecond
      rfl
    · cases h
  · cases h

lemma chunkStart_eq_ok {bs rest : Bytes} {length : Nat} {type : Png.ChunkType}
    (h : Png.chunkStart bs = .ok (length, type, rest)) :
    ∃ l, l.length = 4 ∧ bs = l ++ type.bytes ++ rest := by
  unfold Png.chunkStart at h
  split at h
  · next l₀ l₁ l₂ l₃ a b c d more =>
    cases h
    exact ⟨[l₀, l₁, l₂, l₃], rfl, rfl⟩
  · cases h

lemma chunkBody_eq_ok {length : Nat} {type : Png.ChunkType} {bs data rest : Bytes}
    {flaw : Option Png.Flaw} (h : Png.chunkBody length type bs = .ok (data, flaw, rest)) :
    data <+: bs := by
  unfold Png.chunkBody at h
  split at h
  · cases h
  · next front more hsplit =>
    split at h
    · cases h
    · cases h
      exact ⟨more, (split?_eq_some hsplit).symm⟩

lemma indexed_iff_byte {n : UInt8} {c : Png.ColourType} (h : Png.ColourType.ofByte? n = some c) :
    c = .indexed ↔ n = 3 := by
  unfold Png.ColourType.ofByte? at h
  split_ifs at h <;> cases h <;> simp_all

/-- The width and the height are the first fields of a header, the colour type stands behind the
bit depth. -/
lemma ofData_eq_ok {data : Bytes} {header : Png.Header}
    (h : Png.Header.ofData data = .ok header) :
    ∃ width height n, width.length = 4 ∧ height.length = 4 ∧
      header.width = Bytes.bigEndian width ∧ header.height = Bytes.bigEndian height ∧
      data[9]? = some n ∧ Png.ColourType.ofByte? n = some header.colour := by
  unfold Png.Header.ofData at h
  split at h
  · next w₀ w₁ w₂ w₃ h₀ h₁ h₂ h₃ depth colour compression filter interlace more =>
    refine ⟨[w₀, w₁, w₂, w₃], [h₀, h₁, h₂, h₃], colour, rfl, rfl, ?_⟩
    by_cases hsize : Bytes.bigEndian [w₀, w₁, w₂, w₃] = 0 ∨ Bytes.bigEndian [h₀, h₁, h₂, h₃] = 0
    · rw [if_pos hsize] at h
      cases h
    rw [if_neg hsize] at h
    cases hdepth : Png.BitDepth.ofByte? depth with
    | none =>
      rw [hdepth] at h
      cases h
    | some d =>
      cases hcolour : Png.ColourType.ofByte? colour with
      | none =>
        rw [hdepth, hcolour] at h
        cases h
      | some c =>
        simp only [hdepth, hcolour] at h
        split_ifs at h
        cases h
        exact ⟨rfl, rfl, rfl, rfl⟩
  · cases h

/-- Where the data of a header stands that can be read. -/
lemma read_eq_ok {bs rest : Bytes} {header : Png.Header}
    (h : Png.Header.read bs = .ok (header, rest)) :
    ∃ start data tail, start.length = 8 ∧ bs = pngSignature ++ start ++ (data ++ tail) ∧
      Png.Header.ofData data = .ok header := by
  unfold Png.Header.read at h
  obtain ⟨behind, hsignature, h⟩ := bind_eq_ok.mp h
  obtain ⟨⟨length, type, body⟩, hstart, h⟩ := bind_eq_ok.mp h
  obtain ⟨_, h⟩ := check_eq_ok.mp h
  obtain ⟨_, h⟩ := check_eq_ok.mp h
  obtain ⟨⟨data, flaw, more⟩, hbody, h⟩ := bind_eq_ok.mp h
  have hbs := png_of_signature hsignature
  obtain ⟨l, hl, hbehind⟩ := chunkStart_eq_ok hstart
  obtain ⟨tail, hdata⟩ := chunkBody_eq_ok hbody
  cases flaw with
  | some f => cases h
  | none =>
    obtain ⟨header', hheader, h⟩ := bind_eq_ok.mp h
    cases h
    refine ⟨l ++ type.bytes, data, tail, by simp [hl, Png.ChunkType.bytes], ?_, hheader⟩
    rw [hbs, hbehind, hdata, List.append_assoc pngSignature]

/-- A header that can be read is that of a PNG file, and the place of the colour type is where
it is looked for. -/
lemma header_of_read {bs rest : Bytes} {header : Png.Header}
    (h : Png.Header.read bs = .ok (header, rest)) :
    pngSignature <+: bs ∧ (header.colour = .indexed ↔ colourTypeByte? bs = some 3) := by
  obtain ⟨start, data, tail, hstart, rfl, hdata⟩ := read_eq_ok h
  obtain ⟨_, _, n, _, _, _, _, hn, hcolour⟩ := ofData_eq_ok hdata
  have hbyte : colourTypeByte? (pngSignature ++ start ++ (data ++ tail)) = some n := by
    have hprefix : (pngSignature ++ start).length = 16 := by simp [pngSignature, hstart]
    unfold colourTypeByte?
    rw [List.getElem?_append_right (by omega), hprefix,
      List.getElem?_append_left (List.getElem?_eq_some_iff.mp hn).1]
    exact hn
  refine ⟨⟨start ++ (data ++ tail), (List.append_assoc ..).symm⟩, ?_⟩
  rw [indexed_iff_byte hcolour, hbyte, Option.some.injEq]

lemma ofSamples?_layout {layout : Layout} {width height : Nat} {bs : Bytes} {picture : Picture}
    (h : Picture.ofSamples? layout width height bs = some picture) : picture.layout = layout := by
  cases layout <;>
    · obtain ⟨raster, _, rfl⟩ := Option.map_eq_some_iff.mp h
      rfl

/-- What the header of a palette image leads to. -/
def HasEightBitColours (picture : Picture) : Prop :=
  picture.layout = .rgb8 ∨ picture.layout = .rgba8

lemma layout_of_indexed {header : Png.Header} (h : header.colour = .indexed) (transparent : Bool) :
    header.layout transparent = .rgb8 ∨ header.layout transparent = .rgba8 := by
  unfold Png.Header.layout
  rw [h]
  cases transparent <;> simp

lemma png_decode_eq_ok {content : Bytes} {picture : Picture}
    (h : Png.decode content = .ok picture) :
    ∃ header rest transparent samples, Png.Header.read content = .ok (header, rest) ∧
      Picture.ofSamples? (header.layout transparent) header.width header.height samples =
        some picture := by
  unfold Png.decode at h
  obtain ⟨⟨header, rest⟩, hheader, h⟩ := bind_eq_ok.mp h
  obtain ⟨_, h⟩ := check_eq_ok.mp h
  obtain ⟨⟨extras, length, data⟩, _, h⟩ := bind_eq_ok.mp h
  obtain ⟨_, h⟩ := check_eq_ok.mp h
  obtain ⟨rows, _, h⟩ := bind_eq_ok.mp h
  split at h
  · next hpicture =>
    cases h
    exact ⟨header, rest, _, _, hheader, hpicture⟩
  · cases h

lemma png_of_decode {content : Bytes} {picture : Picture} (h : Png.decode content = .ok picture) :
    ∃ header rest, Png.Header.read content = .ok (header, rest) ∧
      (header.colour = .indexed → HasEightBitColours picture) := by
  obtain ⟨header, rest, transparent, samples, hheader, hpicture⟩ := png_decode_eq_ok h
  refine ⟨header, rest, hheader, fun hindexed => ?_⟩
  unfold HasEightBitColours
  rw [ofSamples?_layout hpicture]
  exact layout_of_indexed hindexed transparent

/-! ## Colours and composites -/

/-- The raster has the colours of an eight-bit picture, at every place. -/
def ColoursOf (picture : Picture) (image : Raster (Rgb UInt8)) : Prop :=
  picture = .rgb8 image ∨ ∃ raster, picture = .rgba8 raster ∧ image.width = raster.width ∧
    image.height = raster.height ∧ ∀ x y, image.pixel? x y = (raster.pixel? x y).map Rgba.rgb

/-- Pictures that differ in their alpha only. -/
def SameColours (a b : Picture) : Prop :=
  ∃ image, ColoursOf a image ∧ ColoursOf b image

/-- The value of a channel over white: it is less than a half away from
`(c * a + 255 * (255 - a)) / 255`. -/
def IsComposite (c a v : UInt8) : Prop :=
  let exact := c.toNat * a.toNat + 255 * (255 - a.toNat)
  2 * exact < 2 * (255 * v.toNat) + 255 ∧ 2 * (255 * v.toNat) < 2 * exact + 255

/-- The pixels of a coloured picture with alpha, in eight bits. -/
def translucent? : Picture → Option (Raster (Rgba UInt8))
  | .rgba8 raster => some raster
  | .rgba16 raster => some (raster.map (·.map narrow))
  | .rgba32f raster => some (raster.map (·.map quantize))
  | _ => none

/-- The raster shows a coloured picture with alpha over white, at every place. -/
def CompositeOf (picture : Picture) (image : Raster (Rgb UInt8)) : Prop :=
  ∀ raster, translucent? picture = some raster → image.width = raster.width ∧
    image.height = raster.height ∧ ∀ x y p, raster.pixel? x y = some p →
      ∃ q, image.pixel? x y = some q ∧ IsComposite p.r p.a q.r ∧ IsComposite p.g p.a q.g ∧
        IsComposite p.b p.a q.b ∧ (p.a = 0 → q = ⟨255, 255, 255⟩)

lemma pixel?_map {α β : Type} (f : α → β) (r : Raster α) (x y : Nat) :
    (r.map f).pixel? x y = (r.pixel? x y).map f := by
  unfold Raster.pixel? Raster.map
  dsimp only
  split_ifs
  · rw [List.getElem?_map]
  · rfl

/-- A raster is known by its size and its pixels. -/
lemma raster_ext {α : Type} {r r' : Raster α} (hwidth : r.width = r'.width)
    (hheight : r.height = r'.height) (h : ∀ x y, r.pixel? x y = r'.pixel? x y) : r = r' := by
  have hpixels : r.pixels = r'.pixels := by
    apply List.ext_getElem?
    intro i
    by_cases hi : i < r.width * r.height
    · have hpos : 0 < r.width := Nat.pos_of_lt_mul_right hi
      have hcolumn : i % r.width < r.width := Nat.mod_lt _ hpos
      have hplace := h (i % r.width) (i / r.width)
      unfold Raster.pixel? at hplace
      rwa [← hwidth, if_pos hcolumn, if_pos hcolumn, Nat.div_add_mod'] at hplace
    · rw [List.getElem?_eq_none (by rw [r.size_eq]; omega),
        List.getElem?_eq_none (by rw [r'.size_eq, ← hwidth, ← hheight]; omega)]
  cases r
  cases r'
  simp_all

lemma add_128_toNat {v : UInt32} (h : v.toNat ≤ 65025) : (v + 128).toNat = v.toNat + 128 := by
  rw [UInt32.toNat_add]
  exact Nat.mod_eq_of_lt (by change v.toNat + 128 < 4294967296; omega)

lemma div255_toNat {v : UInt32} (h : v.toNat ≤ 65025) :
    (div255 v).toNat = ((v.toNat + 128) / 256 + (v.toNat + 128)) / 256 := by
  have hshift : ∀ w : UInt32, (w >>> 8).toNat = w.toNat / 256 := by
    intro w
    simp [UInt32.toNat_shiftRight, Nat.shiftRight_eq_div_pow]
  unfold div255
  dsimp only
  rw [hshift, UInt32.toNat_add, hshift, add_128_toNat h, Nat.mod_eq_of_lt (by omega)]

lemma sub_alpha_toNat (a : UInt8) : (255 - a.toUInt32).toNat = 255 - a.toNat := by
  have ha : a.toNat ≤ 255 := Nat.le_of_lt_succ a.toNat_lt
  rw [UInt32.toNat_sub_of_le]
  · rfl
  · simpa [UInt32.le_iff_toNat_le] using ha

lemma weighted_toNat (c a : UInt8) :
    (c.toUInt32 * a.toUInt32 + 255 * (255 - a.toUInt32)).toNat =
      c.toNat * a.toNat + 255 * (255 - a.toNat) ∧
    c.toNat * a.toNat + 255 * (255 - a.toNat) ≤ 65025 := by
  have hc : c.toNat ≤ 255 := Nat.le_of_lt_succ c.toNat_lt
  have ha : a.toNat ≤ 255 := Nat.le_of_lt_succ a.toNat_lt
  have hmul : c.toNat * a.toNat ≤ 255 * a.toNat := Nat.mul_le_mul_right _ hc
  have hsum : c.toNat * a.toNat + 255 * (255 - a.toNat) ≤ 65025 := by omega
  refine ⟨?_, hsum⟩
  rw [UInt32.toNat_add, UInt32.toNat_mul, UInt32.toNat_mul, sub_alpha_toNat]
  simp only [UInt8.toNat_toUInt32, UInt32.reduceToNat]
  omega

lemma blendWhite_isComposite (c a : UInt8) : IsComposite c a (blendWhite c a) := by
  obtain ⟨hnat, hle⟩ := weighted_toNat c a
  have hvalue := div255_toNat (hnat ▸ hle)
  rw [hnat] at hvalue
  unfold IsComposite blendWhite
  rw [UInt32.toNat_toUInt8, hvalue]
  generalize c.toNat * a.toNat + 255 * (255 - a.toNat) = v at *
  have hbyte : ((v + 128) / 256 + (v + 128)) / 256 < 256 := by omega
  rw [Nat.mod_eq_of_lt hbyte]
  dsimp only
  omega

lemma composite_of_transparent {c v : UInt8} (h : IsComposite c 0 v) : v = 255 := by
  have hv := v.toNat_lt
  unfold IsComposite at h
  apply UInt8.toNat_inj.mp
  simp at h ⊢
  omega

lemma coloursOf_dropAlpha {picture : Picture} (h : HasEightBitColours picture) :
    ColoursOf picture picture.dropAlpha := by
  cases picture with
  | rgb8 raster => exact .inl rfl
  | rgba8 raster => exact .inr ⟨raster, rfl, rfl, rfl, fun x y => pixel?_map _ raster x y⟩
  | _ => simp [HasEightBitColours, Picture.layout] at h

lemma coloursOf_unique {picture : Picture} {image image' : Raster (Rgb UInt8)}
    (h : ColoursOf picture image) (h' : ColoursOf picture image') : image = image' := by
  rcases h with rfl | ⟨raster, rfl, hwidth, hheight, hpixel⟩
  · rcases h' with h' | ⟨_, h', _⟩
    · exact Picture.rgb8.inj h'
    · cases h'
  · rcases h' with h' | ⟨raster', h', hwidth', hheight', hpixel'⟩
    · cases h'
    · cases h'
      apply raster_ext (hwidth.trans hwidth'.symm) (hheight.trans hheight'.symm)
      intro x y
      rw [hpixel, hpixel']

lemma compositeOf_toRgb (picture : Picture) : CompositeOf picture picture.toRgb := by
  intro raster hraster
  have himage : picture.toRgb = flattenOnWhite raster := by
    cases picture with
    | rgba8 r | rgba16 r | rgba32f r =>
      cases hraster
      rfl
    | _ => cases hraster
  rw [himage]
  refine ⟨rfl, rfl, ?_⟩
  intro x y p hp
  have hq : (flattenOnWhite raster).pixel? x y = some (overWhite p) := by
    unfold flattenOnWhite
    rw [pixel?_map, hp]
    rfl
  have hr := blendWhite_isComposite p.r p.a
  have hg := blendWhite_isComposite p.g p.a
  have hb := blendWhite_isComposite p.b p.a
  refine ⟨overWhite p, hq, hr, hg, hb, ?_⟩
  intro ha
  rw [ha] at hr hg hb
  unfold overWhite
  rw [ha, composite_of_transparent hr, composite_of_transparent hg, composite_of_transparent hb]

/-! ## Files -/

lemma mapError_eq_ok {ε ε' α : Type} {f : ε → ε'} {x : Except ε α} {a : α} :
    x.mapError f = .ok a ↔ x = .ok a := by
  cases x <;> simp [Except.mapError]

lemma map_eq_ok {ε α β : Type} {f : α → β} {x : Except ε α} {b : β} :
    x.map f = .ok b ↔ ∃ a, x = .ok a ∧ f a = b := by
  cases x with
  | error e => simp [Except.map]
  | ok a => simp [Except.map]

lemma decodeFile_eq_ok {p : Path} {content : Bytes} {d : Decoded}
    (h : decodeFile p content = .ok d) :
    ImageFormat.ofFile? p content = some d.format ∧ decodeAs d.format content = .ok d.picture := by
  unfold decodeFile at h
  split at h
  · next format hformat =>
    obtain ⟨picture, hpicture, rfl⟩ := map_eq_ok.mp h
    exact ⟨hformat, hpicture⟩
  · split at h <;> cases h

/-- The format under which a file was decoded is the one that its first bytes show, if they show
that of a GIF or of a PNG file. -/
lemma format_of_content {p : Path} {content : Bytes} {format format' : ImageFormat}
    (h : ImageFormat.ofFile? p content = some format)
    (hcontent : ImageFormat.ofContent? content = some format') : format = format' := by
  unfold ImageFormat.ofFile? at h
  rw [hcontent] at h
  exact (Option.some.inj h).symm

/-- For a file that was decoded, the rule by which colours are kept follows its first bytes. -/
lemma isPaletteBased_iff {p : Path} {content : Bytes} {d : Decoded}
    (h : decodeFile p content = .ok d) :
    isPaletteBased d.format content = true ↔ HasPalette content := by
  obtain ⟨hformat, hdecode⟩ := decodeFile_eq_ok h
  have hgif : IsGif content → d.format = .gif :=
    fun hgif => format_of_content hformat (ofContent?_of_gif hgif)
  have hpng : pngSignature <+: content → d.format = .png :=
    fun hpng => format_of_content hformat (ofContent?_of_png hpng)
  unfold HasPalette
  cases hd : d.format with
  | gif =>
    rw [hd] at hdecode
    have hcontent := (gif_of_decode (mapError_eq_ok.mp hdecode)).1
    simp [isPaletteBased, hcontent]
  | png =>
    rw [hd] at hdecode
    obtain ⟨header, rest, hread, _⟩ := png_of_decode (mapError_eq_ok.mp hdecode)
    obtain ⟨hsignature, hcolour⟩ := header_of_read hread
    have hnot := not_gif_of_png hsignature
    simp [isPaletteBased, Png.isIndexed, hread, hsignature, hcolour, hnot]
  | _ =>
    rw [hd] at hgif hpng
    simp [isPaletteBased]
    tauto

lemma eightBit_of_palette {p : Path} {content : Bytes} {d : Decoded}
    (h : decodeFile p content = .ok d) (hpalette : HasPalette content) :
    HasEightBitColours d.picture := by
  obtain ⟨hformat, hdecode⟩ := decodeFile_eq_ok h
  rcases hpalette with hgif | ⟨hpng, hbyte⟩
  · rw [format_of_content hformat (ofContent?_of_gif hgif)] at hdecode
    obtain ⟨raster, hraster⟩ := (gif_of_decode (mapError_eq_ok.mp hdecode)).2
    rw [hraster]
    exact .inr rfl
  · rw [format_of_content hformat (ofContent?_of_png hpng)] at hdecode
    obtain ⟨header, rest, hread, hcolours⟩ := png_of_decode (mapError_eq_ok.mp hdecode)
    exact hcolours ((header_of_read hread).2.mpr hbyte)

/-- Both ways of loading go wrong together, or both give what the file was decoded to. -/
lemma load_cases (t : FileTree) (p : Path) :
    (∃ f, t.loadImage p = .error f ∧ t.loadRgb p = .error f) ∨
    ∃ content d, t.read p = .ok content ∧ decodeFile p content = .ok d ∧
      t.loadImage p = .ok d.picture ∧
      t.loadRgb p = .ok (Loaded.raster ⟨d.picture, isPaletteBased d.format content⟩) := by
  unfold FileTree.loadImage FileTree.loadRgb FileTree.load FileTree.readImage loadContent
  cases hread : t.read p with
  | error e => exact .inl ⟨.unreadable e, rfl, rfl⟩
  | ok content =>
    cases hdecode : decodeFile p content with
    | error f =>
      refine .inl ⟨f, ?_, ?_⟩
      · simp [Except.mapError, bind, Except.bind, hdecode]
      · simp [Except.mapError, bind, Except.bind, hdecode, Except.map]
    | ok d =>
      refine .inr ⟨content, d, rfl, hdecode, ?_, ?_⟩
      · simp [Except.mapError, bind, Except.bind, hdecode, pure, Except.pure]
      · simp [Except.mapError, bind, Except.bind, hdecode, Except.map]

lemma raster_of_palette {picture : Picture} {paletteBased : Bool} (h : paletteBased = true) :
    Loaded.raster ⟨picture, paletteBased⟩ = picture.dropAlpha := by
  unfold Loaded.raster
  rw [if_pos h]

lemma raster_of_no_palette {picture : Picture} {paletteBased : Bool} (h : ¬paletteBased = true) :
    Loaded.raster ⟨picture, paletteBased⟩ = picture.toRgb := by
  unfold Loaded.raster
  rw [if_neg h]

/-- What a file with a palette is loaded as. -/
lemma loadRgb_of_palette {t : FileTree} {p : Path} {content : Bytes} {picture : Picture}
    (hload : t.loadImage p = .ok picture) (hread : t.read p = .ok content)
    (hpalette : HasPalette content) :
    ∃ image, t.loadRgb p = .ok image ∧ ColoursOf picture image := by
  rcases load_cases t p with ⟨f, hfail, _⟩ | ⟨content', d, hread', hdecode, hload', hrgb⟩
  · rw [hload] at hfail
    cases hfail
  · rw [hload] at hload'
    cases hload'
    rw [hread] at hread'
    cases hread'
    have hbased := (isPaletteBased_iff hdecode).mpr hpalette
    rw [raster_of_palette hbased] at hrgb
    exact ⟨_, hrgb, coloursOf_dropAlpha (eightBit_of_palette hdecode hpalette)⟩

/-- Loading a picture and loading it without alpha fail together. If they do not, a file with a
palette gives the colours of its picture, whatever its alpha, and any other file gives the
composite over white of a coloured picture with alpha. The header of a PNG file is read a second
time for this, and that never fails. -/
theorem palette_colours_are_kept (t : FileTree) (p : Path) :
    (∀ f, t.loadRgb p = .error f ↔ t.loadImage p = .error f) ∧
    ∀ picture, t.loadImage p = .ok picture →
      ∃ content image, t.read p = .ok content ∧ t.loadRgb p = .ok image ∧
        (pngSignature <+: content → ∃ header rest, Png.Header.read content = .ok (header, rest) ∧
          (header.colour = .indexed ↔ colourTypeByte? content = some 3)) ∧
        (t.isPaletteFile p (ImageFormat.ofFile? p content) = true ↔ HasPalette content) ∧
        (HasPalette content → ColoursOf picture image ∧
          ∀ (t' : FileTree) (p' : Path) (picture' : Picture) (content' : Bytes),
            t'.loadImage p' = .ok picture' → t'.read p' = .ok content' → HasPalette content' →
            SameColours picture picture' → t'.loadRgb p' = .ok image) ∧
        (¬HasPalette content → CompositeOf picture image) := by
  rcases load_cases t p with ⟨f, hload, hrgb⟩ | ⟨content, d, hread, hdecode, hload, hrgb⟩
  · rw [hload, hrgb]
    exact ⟨fun g => by simp, fun _ h => by cases h⟩
  rw [hload, hrgb]
  refine ⟨fun f => by simp, ?_⟩
  rintro _ ⟨⟩
  obtain ⟨hformat, hdecoded⟩ := decodeFile_eq_ok hdecode
  have hbased := isPaletteBased_iff hdecode
  refine ⟨content, _, hread, rfl, ?_, ?_, ?_, ?_⟩
  · intro hpng
    rw [format_of_content hformat (ofContent?_of_png hpng)] at hdecoded
    obtain ⟨header, rest, hheader, _⟩ := png_of_decode (mapError_eq_ok.mp hdecoded)
    exact ⟨header, rest, hheader, (header_of_read hheader).2⟩
  · have hfile : t.isPaletteFile p (some d.format) = isPaletteBased d.format content := by
      unfold FileTree.isPaletteFile
      rw [hread]
      cases d.format <;> rfl
    rw [hformat, hfile, hbased]
  · intro hpalette
    obtain ⟨image, himage, hcolours⟩ := loadRgb_of_palette hload hread hpalette
    rw [hrgb] at himage
    cases himage
    refine ⟨hcolours, ?_⟩
    rintro t' p' picture' content' hload' hread' hpalette' ⟨common, hsame, hsame'⟩
    obtain ⟨image', himage', hcolours'⟩ := loadRgb_of_palette hload' hread' hpalette'
    rw [himage', coloursOf_unique hcolours' hsame', coloursOf_unique hcolours hsame]
  · intro hpalette
    rw [raster_of_no_palette (mt hbased.mp hpalette)]
    exact compositeOf_toRgb d.picture

/-- A PNG file of one pixel, whose palette has a red that is fully transparent. -/
def clearRedDot : Bytes :=
  [0x89, 0x50, 0x4E, 0x47, 0x0D, 0x0A, 0x1A, 0x0A,
    0, 0, 0, 13, 0x49, 0x48, 0x44, 0x52, 0, 0, 0, 1, 0, 0, 0, 1, 8, 3, 0, 0, 0, 0x28, 0xCB, 0x34, 0xBB,
    0, 0, 0, 3, 0x50, 0x4C, 0x54, 0x45, 0xFF, 0, 0, 0x19, 0xE2, 0x09, 0x37,
    0, 0, 0, 1, 0x74, 0x52, 0x4E, 0x53, 0, 0x40, 0xE6, 0xD8, 0x66,
    0, 0, 0, 13, 0x49, 0x44, 0x41, 0x54, 0x78, 1, 1, 2, 0, 0xFD, 0xFF, 0, 0, 0, 2, 0, 1,
    0x7E, 0x05, 0x0D, 0xD2, 0, 0, 0, 0, 0x49, 0x45, 0x4E, 0x44, 0xAE, 0x42, 0x60, 0x82]

/-- The pixel stays red, and the extension of the file, which is a wrong one, does not matter. -/
theorem palette_colours_are_kept_clear_dot :
    let t : FileTree := ⟨[([Bytes.ofText "dot.jpg"], .file clearRedDot)], []⟩
    let picture := Picture.rgba8 ⟨1, 1, [⟨255, 0, 0, 0⟩], rfl⟩
    t.loadImage (Bytes.ofText "dot.jpg") = .ok picture ∧ HasPalette clearRedDot ∧
      ∃ image, t.loadRgb (Bytes.ofText "dot.jpg") = .ok image ∧ ColoursOf picture image ∧
        image.pixel? 0 0 = some ⟨255, 0, 0⟩ := by
  intro t picture
  have hfind : t.find (Bytes.ofText "dot.jpg") =
      .ok (.taken [Bytes.ofText "dot.jpg"] (.file clearRedDot)) := by
    have hpieces : Path.pieces (Bytes.ofText "dot.jpg") = [Bytes.ofText "dot.jpg"] := by
      decide
    unfold FileTree.find
    rw [if_neg (by decide), if_neg (by decide), if_neg (by decide),
      if_neg (by decide), hpieces, FileTree.walk]
    decide
  have hread := read_of_find hfind
  have hdecode : (decodeFile (Bytes.ofText "dot.jpg") clearRedDot).toOption.map Decoded.picture =
      some picture := by
    decide +kernel
  have hload : t.loadImage (Bytes.ofText "dot.jpg") = .ok picture := by
    unfold FileTree.loadImage FileTree.readImage
    rw [hread]
    cases hd : decodeFile (Bytes.ofText "dot.jpg") clearRedDot with
    | error f =>
      rw [hd] at hdecode
      cases hdecode
    | ok d =>
      rw [hd] at hdecode
      simp [Except.mapError, bind, Except.bind, hd, pure, Except.pure, Option.some.inj hdecode]
  have hpalette : HasPalette clearRedDot := .inr (by decide)
  obtain ⟨_, hkept⟩ := palette_colours_are_kept t (Bytes.ofText "dot.jpg")
  obtain ⟨content, image, hcontent, himage, _, _, hcolours, _⟩ := hkept picture hload
  rw [hread] at hcontent
  cases hcontent
  refine ⟨hload, hpalette, image, himage, (hcolours hpalette).1, ?_⟩
  rcases (hcolours hpalette).1 with h | ⟨raster, h, _, _, hpixel⟩
  · exact absurd h (by simp [picture])
  · rw [hpixel, ← Picture.rgba8.inj h]
    rfl

end ScanBinder.Proofs
