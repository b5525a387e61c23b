import ScanBinder.Proofs.PaletteColours
import ScanBinder.Proofs.Scanning

/-!
# Images under other names

The format of an image is what the first signature says that its first bytes match. Only a content
without a signature leaves the choice to the extension. So a file with a signature is loaded alike
under every name: the format, the decoder, and the rule by which the alpha of palettes is dropped
all depend on its bytes alone, and a failure names the path but is otherwise the same.
-/

namespace ScanBinder.Proofs
open FileTree ImageFormat

/-! ## Signatures -/

/-- What a signature fixes stands in the byte string, each byte at its place. -/
def Matches (s : Signature) (bs : Bytes) : Prop :=
  s.length ≤ bs.length ∧ ∀ (i : Nat) (b : UInt8), s[i]? = some (some b) → bs[i]? = some b

/-- The first bytes of a content match a signature of the format, and none that comes before it. -/
def Shows (content : Bytes) (format : ImageFormat) : Prop :=
  ∃ s before after, signatures = before ++ (s, format) :: after ∧ Matches s (content.take 16) ∧
    ∀ x ∈ before, ¬Matches x.1 (content.take 16)

lemma matches_cons {b? : Option UInt8} {s : Signature} {b : UInt8} {bs : Bytes} :
    Matches (b? :: s) (b :: bs) ↔ (b? = none ∨ b? = some b) ∧ Matches s bs := by
  constructor
  · rintro ⟨hlength, hbytes⟩
    refine ⟨?_, Nat.le_of_succ_le_succ hlength, fun i c hc => hbytes (i + 1) c hc⟩
    cases b? with
    | none => exact .inl rfl
    | some c => exact .inr (hbytes 0 c rfl).symm
  · rintro ⟨hfirst, hlength, hbytes⟩
    refine ⟨Nat.succ_le_succ hlength, ?_⟩
    rintro (_ | i) c hc
    · rcases hfirst with rfl | rfl
      · cases hc
      · exact Option.some.inj hc
    · exact hbytes i c hc

lemma startsWith_iff (s : Signature) (bs : Bytes) : startsWith s bs = true ↔ Matches s bs := by
  induction s generalizing bs with
  | nil => simp [startsWith, Matches]
  | cons b? s ih =>
    cases bs with
    | nil => simp [startsWith, Matches]
    | cons b bs => rw [matches_cons, ← ih, startsWith, Bool.and_eq_true, Bool.or_eq_true,
        decide_eq_true_eq, decide_eq_true_eq]

/-- The format of a content is known if it matches any signature. -/
lemma exists_shown {content : Bytes} (h : ∃ s ∈ signatures, Matches s.1 (content.take 16)) :
    ∃ format, ofContent? content = some format ∧ Shows content format := by
  obtain ⟨s, hs, hmatch⟩ := h
  obtain ⟨x, hx⟩ : ∃ x, signatures.find? (fun s => startsWith s.1 (content.take signatureLimit)) =
      some x := by
    rw [← Option.isSome_iff_exists, List.find?_isSome]
    exact ⟨s, hs, (startsWith_iff ..).mpr hmatch⟩
  obtain ⟨hfirst, before, after, hsplit, hbefore⟩ := List.find?_eq_some_iff_append.mp hx
  refine ⟨x.2, by rw [ofContent?, hx]; rfl, x.1, before, after, hsplit,
    (startsWith_iff ..).mp hfirst, ?_⟩
  intro y hy hmatch'
  have hnot : (!startsWith y.1 (content.take 16)) = true := hbefore y hy
  rw [(startsWith_iff ..).mpr hmatch'] at hnot
  cases hnot

/-! ## Loading by content -/

section
variable {t : FileTree} {p : Path} {content : Bytes} {format : ImageFormat}

lemma ofFile?_of_shown (h : ofContent? content = some format) : ofFile? p content = some format := by
  rw [ofFile?, h, Option.some_or]

lemma decodeFile_of_shown (h : ofContent? content = some format) :
    decodeFile p content = (decodeAs format content).map (⟨·, format⟩) := by
  unfold decodeFile
  rw [ofFile?_of_shown h]

lemma loadImage_of_shown (hread : t.read p = .ok content) (h : ofContent? content = some format) :
    t.loadImage p = decodeAs format content := by
  unfold FileTree.loadImage FileTree.readImage
  rw [hread]
  change (decodeFile p content >>= fun d => pure d.picture) = _
  rw [decodeFile_of_shown h]
  cases decodeAs format content with
  | ok picture => rfl
  | error f => rfl

lemma loadRgb_of_shown (hread : t.read p = .ok content) (h : ofContent? content = some format) :
    t.loadRgb p = (decodeAs format content).map fun picture =>
      Loaded.raster ⟨picture, isPaletteBased format content⟩ := by
  unfold FileTree.loadRgb FileTree.load FileTree.readImage
  rw [hread]
  change (loadContent p content).map Loaded.raster = _
  rw [loadContent, decodeFile_of_shown h]
  cases decodeAs format content with
  | ok picture => rfl
  | error f => rfl

/-- The second look at the file sees what the first one saw. -/
lemma isPaletteFile_of_shown (hread : t.read p = .ok content)
    (h : ofContent? content = some format) :
    t.isPaletteFile p (ofFile? p content) = isPaletteBased format content := by
  rw [ofFile?_of_shown h]
  unfold FileTree.isPaletteFile
  rw [hread]
  cases format <;> rfl

end

/-! ## Two names -/

/-- What becomes of the image at a path, with a failure that names the path. -/
def naming {α : Type} (p : Path) (outcome : Except ImageFault α) : Except Failure α :=
  outcome.mapError (.image p)

/-- The same result, or failures that differ in nothing but the path that they name. -/
inductive SameButPath {α : Type} (p q : Path) : Except Failure α → Except Failure α → Prop
  | result (a : α) : SameButPath p q (.ok a) (.ok a)
  | failure (f : ImageFault) : SameButPath p q (.error (.image p f)) (.error (.image q f))

lemma sameButPath_naming {α : Type} (p q : Path) (outcome : Except ImageFault α) :
    SameButPath p q (naming p outcome) (naming q outcome) := by
  cases outcome with
  | ok a => exact .result a
  | error f => exact .failure f

lemma eq_of_sameButPath_naming {α : Type} {p q : Path} {x y : Except ImageFault α}
    (h : SameButPath p q (naming p x) (naming q y)) : x = y := by
  cases x with
  | ok a =>
    cases y with
    | ok b => cases h; rfl
    | error g => cases h
  | error f =>
    cases y with
    | ok b => cases h
    | error g => cases h; rfl

/-- Two files with the same content, which starts with a signature, are loaded alike, whatever
their paths are. Whether alpha is dropped is the same for both, and is told by the content. -/
theorem load_under_any_name {content : Bytes}
    (hshown : ∃ s ∈ signatures, Matches s.1 (content.take 16)) {t t' : FileTree} {p q : Path}
    (hp : t.read p = .ok content) (hq : t'.read q = .ok content) :
    (∃ format, Shows content format ∧ ofFile? p content = some format ∧
      ofFile? q content = some format) ∧
    SameButPath p q (naming p (t.loadImage p)) (naming q (t'.loadImage q)) ∧
    SameButPath p q (naming p (t.loadRgb p)) (naming q (t'.loadRgb q)) ∧
    t.isPaletteFile p (ofFile? p content) = t'.isPaletteFile q (ofFile? q content) ∧
    ∀ picture, t.loadImage p = .ok picture →
      (t.isPaletteFile p (ofFile? p content) = true ↔ HasPalette content) ∧
      t.loadRgb p = .ok (if t.isPaletteFile p (ofFile? p content) then picture.dropAlpha
        else picture.toRgb) := by
  obtain ⟨format, hformat, hshows⟩ := exists_shown hshown
  rw [isPaletteFile_of_shown hp hformat, isPaletteFile_of_shown hq hformat,
    loadImage_of_shown hp hformat, loadImage_of_shown hq hformat, loadRgb_of_shown hp hformat,
    loadRgb_of_shown hq hformat]
  refine ⟨⟨format, hshows, ofFile?_of_shown hformat, ofFile?_of_shown hformat⟩,
    sameButPath_naming .., sameButPath_naming .., rfl, ?_⟩
  intro picture hpicture
  have hdecode : decodeFile p content = .ok ⟨picture, format⟩ := by
    rw [decodeFile_of_shown hformat, hpicture]
    rfl
  rw [hpicture]
  exact ⟨isPaletteBased_iff hdecode, rfl⟩

/-- A picture with a palette under a wrong extension and under none, and beside it one in a format
without a decoder, whose names promise one. -/
def misnamed : FileTree :=
  ⟨[([Bytes.ofText "dot.jpg"], .file clearRedDot), ([Bytes.ofText "dot"], .file clearRedDot),
    ([Bytes.ofText "quick.png"], .file (Bytes.ofText "qoif")),
    ([Bytes.ofText "quick.gif"], .file (Bytes.ofText "qoif"))], []⟩

/-- A file of the current folder. -/
def localPath (name : String) : Path :=
  Path.join Path.here (Bytes.ofText name)

lemma read_misnamed {name : String} {content : Bytes} (hname : IsPlain (Bytes.ofText name))
    (h : misnamed.get? [Bytes.ofText name] = some (.file content)) :
    misnamed.read (localPath name) = .ok content :=
  read_of_find (find_child_file hname h)

theorem load_under_any_name_misnamed :
    (∃ image, misnamed.loadRgb (localPath "dot.jpg") = .ok image ∧
      misnamed.loadRgb (localPath "dot") = .ok image ∧ image.pixel? 0 0 = some ⟨255, 0, 0⟩) ∧
    naming (localPath "quick.gif") (misnamed.loadImage (localPath "quick.gif")) =
      .error (.image (localPath "quick.gif") (.noDecoder .qoi)) := by
  have hdot : misnamed.read (localPath "dot.jpg") = .ok clearRedDot :=
    read_misnamed (by decide) (by decide)
  have hbare : misnamed.read (localPath "dot") = .ok clearRedDot :=
    read_misnamed (by decide) (by decide)
  have hpng : misnamed.read (localPath "quick.png") = .ok (Bytes.ofText "qoif") :=
    read_misnamed (by decide) (by decide)
  have hgif : misnamed.read (localPath "quick.gif") = .ok (Bytes.ofText "qoif") :=
    read_misnamed (by decide) (by decide)
  constructor
  · obtain ⟨_, _, hrgb, _, hpicture⟩ := load_under_any_name
      ⟨_, List.mem_cons_self .., (startsWith_iff ..).mp (by decide)⟩ hdot hbare
    have hdecode : (decodeAs .png clearRedDot).toOption =
        some (.rgba8 ⟨1, 1, [⟨255, 0, 0, 0⟩], rfl⟩) := by decide +kernel
    have hload : misnamed.loadImage (localPath "dot.jpg") =
        .ok (.rgba8 ⟨1, 1, [⟨255, 0, 0, 0⟩], rfl⟩) := by
      rw [loadImage_of_shown hdot (show ofContent? clearRedDot = some .png by decide)]
      cases hd : decodeAs .png clearRedDot with
      | error f =>
        rw [hd] at hdecode
        cases hdecode
      | ok picture =>
        rw [hd] at hdecode
        exact congrArg Except.ok (Option.some.inj hdecode)
    obtain ⟨hpalette, hraster⟩ := hpicture _ hload
    rw [if_pos (hpalette.mpr (.inr (by decide)))] at hraster
    exact ⟨_, hraster, (eq_of_sameButPath_naming hrgb).symm.trans hraster, rfl⟩
  · obtain ⟨_, himage, _⟩ := load_under_any_name
      ⟨(exactly "qoif", .qoi), by decide, (startsWith_iff ..).mp (by decide)⟩ hpng hgif
    have hfailed : misnamed.loadImage (localPath "quick.png") = .error (.noDecoder .qoi) := by
      rw [loadImage_of_shown hpng (show ofContent? (Bytes.ofText "qoif") = some .qoi by decide)]
      rfl
    rw [← eq_of_sameButPath_naming himage, hfailed]
    rfl

end ScanBinder.Proofs
