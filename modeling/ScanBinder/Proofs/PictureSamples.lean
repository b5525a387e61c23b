import ScanBinder.Proofs.Compositing

/-!
# The samples of pictures

The samples of a picture stand in a row, pixel after pixel, each pixel with the channels of the
layout. Whatever the layout, the colour shown for a pixel is a function of its own samples. It
follows that an alpha channel makes no difference where it is full or the picture is gray.
-/

namespace ScanBinder.Proofs

/-! ## Samples in a row -/

/-- A sample of one of the three depths. -/
inductive Sample where
  | byte (v : UInt8)
  | word (v : UInt16)
  | fraction (v : Single)
deriving DecidableEq

namespace Sample

def bytes : Sample → Bytes
  | byte v => [v]
  | word v => wordBytes v
  | fraction v => singleBytes v

/-- The sample in eight bits. -/
def reduced : Sample → UInt8
  | byte v => v
  | word v => narrow v
  | fraction v => quantize v

/-- The alpha of an opaque pixel. -/
def IsFull : Sample → Prop
  | byte v => v = 255
  | word v => v = 65535
  | fraction v => v = .ofInt .single 1

end Sample

def samples : Picture → List Sample
  | .l8 r => r.pixels.flatMap fun p => p.samples.map .byte
  | .la8 r => r.pixels.flatMap fun p => p.samples.map .byte
  | .rgb8 r => r.pixels.flatMap fun p => p.samples.map .byte
  | .rgba8 r => r.pixels.flatMap fun p => p.samples.map .byte
  | .l16 r => r.pixels.flatMap fun p => p.samples.map .word
  | .la16 r => r.pixels.flatMap fun p => p.samples.map .word
  | .rgb16 r => r.pixels.flatMap fun p => p.samples.map .word
  | .rgba16 r => r.pixels.flatMap fun p => p.samples.map .word
  | .rgb32f r => r.pixels.flatMap fun p => p.samples.map .fraction
  | .rgba32f r => r.pixels.flatMap fun p => p.samples.map .fraction

def hasAlpha : Layout → Bool
  | .la8 | .rgba8 | .la16 | .rgba16 | .rgba32f => true
  | .l8 | .rgb8 | .l16 | .rgb16 | .rgb32f => false

def hasColour : Layout → Bool
  | .rgb8 | .rgba8 | .rgb16 | .rgba16 | .rgb32f | .rgba32f => true
  | .l8 | .la8 | .l16 | .la16 => false

def colourChannels (layout : Layout) : Nat :=
  if hasColour layout then 3 else 1

def channels (layout : Layout) : Nat :=
  if hasAlpha layout then colourChannels layout + 1 else colourChannels layout

/-- The layout of the same depth without alpha. -/
def withoutAlpha : Layout → Layout
  | .la8 => .l8
  | .rgba8 => .rgb8
  | .la16 => .l16
  | .rgba16 => .rgb16
  | .rgba32f => .rgb32f
  | layout => layout

/-- The sample of channel `c` in column `x` and row `y`. -/
def sample? (p : Picture) (x y c : Nat) : Option Sample :=
  if x < p.width ∧ c < channels p.layout then
    (samples p)[(y * p.width + x) * channels p.layout + c]?
  else none

/-- The samples are the ones that the picture has, in the same order. -/
lemma sampleBytes_eq (p : Picture) : p.sampleBytes = (samples p).flatMap Sample.bytes := by
  have hbytes : ∀ l : List UInt8, (l.map Sample.byte).flatMap Sample.bytes = l := by
    intro l
    rw [List.flatMap_map]
    exact List.flatMap_singleton' l
  cases p with
  | l8 r | la8 r | rgb8 r | rgba8 r =>
    rw [samples, List.flatMap_assoc]
    simp only [hbytes]
    rfl
  | _ r =>
    rw [samples, List.flatMap_assoc]
    simp only [List.flatMap_map]
    rfl

/-! ## Pixels and their samples -/

/-- The colour shown for a pixel with these samples. -/
def shownColour : List Sample → Rgb UInt8
  | [l] => ⟨l.reduced, l.reduced, l.reduced⟩
  | [l, _] => ⟨l.reduced, l.reduced, l.reduced⟩
  | [r, g, b] => ⟨r.reduced, g.reduced, b.reduced⟩
  | [r, g, b, a] => overWhite ⟨r.reduced, g.reduced, b.reduced, a.reduced⟩
  | _ => ⟨0, 0, 0⟩

/-- A picture seen as a raster of pixels with samples. -/
structure IsView (p : Picture) {α : Type} (r : Raster α) (parts : α → List Sample) : Prop where
  width : p.width = r.width
  height : p.height = r.height
  samples : samples p = r.pixels.flatMap parts
  length : ∀ a, (parts a).length = channels p.layout
  toRgb : p.toRgb = r.map fun a => shownColour (parts a)

lemma raster_map_id {α : Type} (r : Raster α) : r.map (fun a => a) = r := by
  unfold Raster.map
  simp

lemma raster_map_map {α β γ : Type} (f : α → β) (g : β → γ) (r : Raster α) :
    (r.map f).map g = r.map fun a => g (f a) := by
  unfold Raster.map
  simp

/-- Each layout has its own way to opaque colour, and all of them show the same function of the
samples of a pixel. -/
lemma exists_view (p : Picture) :
    ∃ (α : Type) (r : Raster α) (parts : α → List Sample), IsView p r parts := by
  cases p with
  | l8 r | la8 r => exact ⟨_, r, fun a => a.samples.map .byte, rfl, rfl, rfl, fun _ => rfl, rfl⟩
  | rgb8 r =>
    exact ⟨_, r, fun a => a.samples.map .byte, rfl, rfl, rfl, fun _ => rfl, (raster_map_id r).symm⟩
  | rgba8 r => exact ⟨_, r, fun a => a.samples.map .byte, rfl, rfl, rfl, fun _ => rfl, rfl⟩
  | l16 r | la16 r | rgb16 r =>
    exact ⟨_, r, fun a => a.samples.map .word, rfl, rfl, rfl, fun _ => rfl, rfl⟩
  | rgba16 r =>
    exact ⟨_, r, fun a => a.samples.map .word, rfl, rfl, rfl, fun _ => rfl, raster_map_map _ _ r⟩
  | rgb32f r => exact ⟨_, r, fun a => a.samples.map .fraction, rfl, rfl, rfl, fun _ => rfl, rfl⟩
  | rgba32f r =>
    exact ⟨_, r, fun a => a.samples.map .fraction, rfl, rfl, rfl, fun _ => rfl,
      raster_map_map _ _ r⟩

lemma getElem?_flatMap {α β : Type} {f : α → List β} {k : Nat} (hf : ∀ a, (f a).length = k)
    (l : List α) (i : Nat) {c : Nat} (hc : c < k) :
    (l.flatMap f)[i * k + c]? = l[i]?.bind fun a => (f a)[c]? := by
  induction l generalizing i with
  | nil => rfl
  | cons a l ih =>
    rw [List.flatMap_cons]
    cases i with
    | zero =>
      rw [Nat.zero_mul, Nat.zero_add, List.getElem?_append_left (by rw [hf]; exact hc)]
      rfl
    | succ i =>
      have hindex : (i + 1) * k + c = k + (i * k + c) := by
        rw [Nat.succ_mul]
        omega
      rw [hindex, List.getElem?_append_right (by rw [hf]; omega), hf, Nat.add_sub_cancel_left, ih]
      rfl

section
variable {p : Picture} {α : Type} {r : Raster α} {parts : α → List Sample}

lemma IsView.sample?_eq (h : IsView p r parts) (x y c : Nat) :
    sample? p x y c = (r.pixel? x y).bind fun a => (parts a)[c]? := by
  unfold sample? Raster.pixel?
  rw [h.width]
  by_cases hx : x < r.width
  · by_cases hc : c < channels p.layout
    · rw [if_pos ⟨hx, hc⟩, if_pos hx, h.samples, getElem?_flatMap h.length _ _ hc]
    · rw [if_neg (by tauto), if_pos hx]
      cases r.pixels[y * r.width + x]? with
      | none => rfl
      | some a => exact (List.getElem?_eq_none (by rw [h.length]; omega)).symm
  · rw [if_neg (by tauto), if_neg hx]
    rfl

lemma IsView.pixel?_toRgb (h : IsView p r parts) (x y : Nat) :
    p.toRgb.pixel? x y = (r.pixel? x y).map fun a => shownColour (parts a) := by
  rw [h.toRgb, pixel?_map]

lemma channels_pos (layout : Layout) : 0 < channels layout := by
  cases layout <;> decide

lemma IsView.sample?_eq_none (h : IsView p r parts) {x y : Nat} :
    sample? p x y 0 = none ↔ r.pixel? x y = none := by
  rw [h.sample?_eq]
  cases r.pixel? x y with
  | none => simp
  | some a =>
    have hlength : 0 < (parts a).length := by
      rw [h.length]
      exact channels_pos p.layout
    simp [List.getElem?_eq_getElem hlength]

end

/-- If a pixel of `q` has the first samples of a pixel of `p`, and the others do not count, both
show the same colour. -/
lemma pixel?_toRgb_of_samples {p q : Picture} {x y x' y' : Nat}
    (h : ∀ c, c < channels q.layout → sample? q x' y' c = sample? p x y c)
    (hcolour : ∀ l : List Sample, l.length = channels p.layout → (∀ c, l[c]? = sample? p x y c) →
      shownColour (l.take (channels q.layout)) = shownColour l) :
    p.toRgb.pixel? x y = q.toRgb.pixel? x' y' := by
  obtain ⟨α, r, parts, hp⟩ := exists_view p
  obtain ⟨β, r', parts', hq⟩ := exists_view q
  have hnone : r'.pixel? x' y' = none ↔ r.pixel? x y = none := by
    rw [← hp.sample?_eq_none, ← hq.sample?_eq_none, h 0 (channels_pos q.layout)]
  rw [hp.pixel?_toRgb, hq.pixel?_toRgb]
  cases ha : r.pixel? x y with
  | none => rw [hnone.mpr ha]; rfl
  | some a =>
    obtain ⟨b, hb⟩ : ∃ b, r'.pixel? x' y' = some b := by
      rw [← Option.ne_none_iff_exists']
      intro hb
      rw [hnone.mp hb] at ha
      cases ha
    have hsamples : ∀ c, (parts a)[c]? = sample? p x y c := by
      intro c
      rw [hp.sample?_eq, ha]
      rfl
    have hsamples' : ∀ c, (parts' b)[c]? = sample? q x' y' c := by
      intro c
      rw [hq.sample?_eq, hb]
      rfl
    have hparts : parts' b = (parts a).take (channels q.layout) := by
      apply List.ext_getElem?
      intro c
      by_cases hc : c < channels q.layout
      · rw [hsamples', h c hc, List.getElem?_take_of_lt hc, hsamples]
      · rw [List.getElem?_eq_none (by rw [hq.length]; omega),
          List.getElem?_eq_none (by rw [List.length_take]; omega)]
    rw [hb, Option.map_some, Option.map_some, hparts,
      hcolour (parts a) (hp.length a) hsamples]

/-! ## Alpha that makes no difference -/

lemma less_self (v : Single) : v.less v = false := by
  unfold Binary.less
  cases v.negative <;> simp

lemma toNat_narrow (v : UInt16) : (narrow v).toNat = (v.toNat + 128) / 257 := by
  have hv : v.toNat < 65536 := v.toNat_lt
  unfold narrow
  rw [UInt8.toNat_ofNat_of_lt']
  change (v.toNat + 128) / 257 < 256
  omega

lemma reduced_of_isFull {s : Sample} (h : s.IsFull) : s.reduced = 255 := by
  cases s with
  | byte v => exact h
  | word v =>
    obtain rfl : v = 65535 := h
    rfl
  | fraction v =>
    obtain rfl : v = .ofInt .single 1 := h
    change quantize (.ofInt .single 1) = 255
    unfold quantize
    rw [less_self]
    rfl

lemma overWhite_full (r g b : UInt8) : overWhite ⟨r, g, b, 255⟩ = ⟨r, g, b⟩ := by
  have hfull : ∀ c : UInt8, blendWhite c 255 = c :=
    fun c => composite_of_full (blendWhite_isComposite c 255)
  unfold overWhite
  rw [hfull, hfull, hfull]

/-- A pixel with alpha shows the colour of its other samples, if it is gray or opaque. -/
lemma shownColour_of_alpha {layout : Layout} (halpha : hasAlpha layout = true) {l : List Sample}
    (hl : l.length = channels layout)
    (hfull : hasColour layout = true → ∀ s, l[3]? = some s → s.IsFull) :
    shownColour (l.take (colourChannels layout)) = shownColour l := by
  unfold channels colourChannels at hl
  unfold colourChannels
  rw [if_pos halpha] at hl
  cases hcolour : hasColour layout with
  | false =>
    rw [hcolour] at hl
    obtain ⟨g, a, rfl⟩ := List.length_eq_two.mp hl
    rfl
  | true =>
    rw [hcolour] at hl
    obtain ⟨r, g, b, a, rfl⟩ : ∃ r g b a, l = [r, g, b, a] := by
      match l, hl with
      | [r, g, b, a], _ => exact ⟨r, g, b, a, rfl⟩
    have ha := reduced_of_isFull (hfull hcolour a rfl)
    change _ = overWhite ⟨r.reduced, g.reduced, b.reduced, a.reduced⟩
    rw [ha, overWhite_full]
    rfl

lemma channels_withoutAlpha (layout : Layout) :
    channels (withoutAlpha layout) = colourChannels layout := by
  cases layout <;> rfl

lemma width_toRgb (p : Picture) : p.toRgb.width = p.width ∧ p.toRgb.height = p.height := by
  obtain ⟨α, r, parts, hp⟩ := exists_view p
  rw [hp.toRgb, hp.width, hp.height]
  exact ⟨rfl, rfl⟩

lemma toRgb_of_opaque {p q : Picture} (halpha : hasAlpha p.layout = true)
    (hlayout : q.layout = withoutAlpha p.layout) (hwidth : q.width = p.width)
    (hheight : q.height = p.height)
    (hsame : ∀ x y c, c < channels q.layout → sample? q x y c = sample? p x y c)
    (hfull : hasColour p.layout = true → ∀ x y s, sample? p x y 3 = some s → s.IsFull) :
    p.toRgb = q.toRgb := by
  have hchannels : channels q.layout = colourChannels p.layout := by
    rw [hlayout, channels_withoutAlpha]
  apply raster_ext
  · rw [(width_toRgb p).1, (width_toRgb q).1, hwidth]
  · rw [(width_toRgb p).2, (width_toRgb q).2, hheight]
  · intro x y
    apply pixel?_toRgb_of_samples (hsame x y)
    intro l hl hsamples
    rw [hchannels]
    apply shownColour_of_alpha halpha hl
    intro hcolour s hs
    rw [hsamples] at hs
    exact hfull hcolour x y s hs

/-- The colour of a pixel without alpha is that of its samples, gray counting three times. -/
lemma pixel?_of_no_alpha {p : Picture} (halpha : hasAlpha p.layout = false) {x y : Nat}
    (hx : x < p.width) (hy : y < p.height) :
    ∃ r g b, sample? p x y 0 = some r ∧
      sample? p x y (if hasColour p.layout then 1 else 0) = some g ∧
      sample? p x y (if hasColour p.layout then 2 else 0) = some b ∧
      p.toRgb.pixel? x y = some ⟨r.reduced, g.reduced, b.reduced⟩ := by
  obtain ⟨α, raster, parts, hp⟩ := exists_view p
  rw [hp.width] at hx
  rw [hp.height] at hy
  obtain ⟨a, ha⟩ := exists_pixel hx hy
  have hlength := hp.length a
  simp only [hp.sample?_eq, hp.pixel?_toRgb, ha, Option.bind_some, Option.map_some]
  unfold channels colourChannels at hlength
  rw [halpha, if_neg Bool.false_ne_true] at hlength
  cases hcolour : hasColour p.layout with
  | false =>
    rw [hcolour] at hlength
    obtain ⟨l, hl⟩ := List.length_eq_one_iff.mp hlength
    rw [hl]
    exact ⟨l, l, l, rfl, rfl, rfl, rfl⟩
  | true =>
    rw [hcolour] at hlength
    obtain ⟨r, g, b, hl⟩ := List.length_eq_three.mp hlength
    rw [hl]
    exact ⟨r, g, b, rfl, rfl, rfl, rfl⟩

/-- A full alpha channel, or any alpha channel of a gray picture, makes no difference to the opaque
colours. They have the size of the picture, and each depends on the samples of its own pixel, which
are brought to eight bits one by one. -/
theorem toRgb_without_alpha :
    (∀ p q : Picture, hasAlpha p.layout = true → q.layout = withoutAlpha p.layout →
      q.width = p.width → q.height = p.height →
      (∀ x y c, c < channels q.layout → sample? q x y c = sample? p x y c) →
      (hasColour p.layout = true → ∀ x y s, sample? p x y 3 = some s → s.IsFull) →
      p.toRgb = q.toRgb) ∧
    (∀ p : Picture, p.toRgb.width = p.width ∧ p.toRgb.height = p.height) ∧
    (∀ (p q : Picture) (x y x' y' : Nat), q.layout = p.layout →
      (∀ c, sample? q x' y' c = sample? p x y c) → p.toRgb.pixel? x y = q.toRgb.pixel? x' y') ∧
    (∀ (p : Picture) (x y : Nat), hasAlpha p.layout = false → x < p.width → y < p.height →
      ∃ r g b, sample? p x y 0 = some r ∧
        sample? p x y (if hasColour p.layout then 1 else 0) = some g ∧
        sample? p x y (if hasColour p.layout then 2 else 0) = some b ∧
        p.toRgb.pixel? x y = some ⟨r.reduced, g.reduced, b.reduced⟩) ∧
    (∀ v : UInt16, (Sample.word v).reduced.toNat = (v.toNat + 128) / 257) ∧
    (∀ s : Sample, s.IsFull → s.reduced = 255) ∧
    ∀ p : Picture, p.sampleBytes = (samples p).flatMap Sample.bytes := by
  refine ⟨?_, width_toRgb, ?_, ?_, toNat_narrow, fun s => reduced_of_isFull, sampleBytes_eq⟩
  · intro p q halpha hlayout hwidth hheight hsame hfull
    exact toRgb_of_opaque halpha hlayout hwidth hheight hsame hfull
  · intro p q x y x' y' hlayout hsame
    apply pixel?_toRgb_of_samples fun c _ => hsame c
    intro l hl _
    rw [hlayout, ← hl, List.take_length]
  · intro p x y halpha hx hy
    exact pixel?_of_no_alpha halpha hx hy

/-! ## A raster with and without its alpha -/

section
variable {σ : Type} {kind : σ → Sample} {r : Raster (Rgba σ)} {p q : Picture}

lemma sample?_map_rgb (hp : IsView p r fun a => a.samples.map kind)
    (hq : IsView q (r.map Rgba.rgb) fun a => a.samples.map kind) (x y : Nat) {c : Nat}
    (hc : c < 3) : sample? q x y c = sample? p x y c := by
  rw [hp.sample?_eq, hq.sample?_eq, pixel?_map]
  cases r.pixel? x y with
  | none => rfl
  | some a =>
    match c, hc with
    | 0, _ => rfl
    | 1, _ => rfl
    | 2, _ => rfl

lemma isFull_of_pixels (hp : IsView p r fun a => a.samples.map kind)
    (hfull : ∀ a ∈ r.pixels, (kind a.a).IsFull) {x y : Nat} {s : Sample}
    (hs : sample? p x y 3 = some s) : s.IsFull := by
  rw [hp.sample?_eq] at hs
  obtain ⟨a, ha, hsample⟩ := Option.bind_eq_some_iff.mp hs
  obtain rfl : kind a.a = s := Option.some.inj hsample
  unfold Raster.pixel? at ha
  split_ifs at ha
  exact hfull a (List.mem_of_getElem? ha)

end

/-- Two opaque pixels of sixteen bits. -/
def opaqueWords : Raster (Rgba UInt16) :=
  ⟨2, 1, [⟨65535, 0, 300, 65535⟩, ⟨1, 40000, 128, 65535⟩], rfl⟩

theorem toRgb_without_alpha_two_words :
    (Picture.rgba16 opaqueWords).toRgb = (Picture.rgb16 (opaqueWords.map Rgba.rgb)).toRgb ∧
      (Picture.rgba16 opaqueWords).toRgb.pixel? 1 0 = some ⟨0, 156, 0⟩ := by
  have hview : IsView (.rgba16 opaqueWords) opaqueWords fun a => a.samples.map .word :=
    ⟨rfl, rfl, rfl, fun _ => rfl, raster_map_map _ _ _⟩
  have hview' : IsView (.rgb16 (opaqueWords.map Rgba.rgb)) (opaqueWords.map Rgba.rgb)
      fun a => a.samples.map .word :=
    ⟨rfl, rfl, rfl, fun _ => rfl, rfl⟩
  have hfull : ∀ a ∈ opaqueWords.pixels, (Sample.word a.a).IsFull := by
    intro a ha
    rcases List.mem_pair.mp ha with rfl | rfl
    · rfl
    · rfl
  have hsame : (Picture.rgba16 opaqueWords).toRgb =
      (Picture.rgb16 (opaqueWords.map Rgba.rgb)).toRgb :=
    toRgb_without_alpha.1 _ _ rfl rfl rfl rfl (fun x y _ hc => sample?_map_rgb hview hview' x y hc)
      fun _ _ _ _ hs => isFull_of_pixels hview hfull hs
  refine ⟨hsame, ?_⟩
  rw [hsame]
  decide

end ScanBinder.Proofs
