import ScanBinder.Proofs.Inspection
import ScanBinder.Proofs.IntegerWidth
import ScanBinder.Proofs.References
import ScanBinder.Proofs.Scanning

/-!
# The page count of any document

The count is found on a way of four steps: from the trailer to the catalog, to the page tree, to
its count. Whatever a file holds, each step succeeds or fails in one of a few ways, and each way
to fail has an outcome of its own. The information dictionary is not on this way, so the metadata
of a document are there whenever its count is.
-/

namespace ScanBinder.Proofs
open FileTree Pdf Document

section
variable {d : Document}

/-! ## The steps -/

/-- The dictionary that the root of the trailer leads to. -/
def IsCatalog (d : Document) (limit : Nat) (catalog : Dict) : Prop :=
  ∃ root, d.trailer.get? "Root" = some (.ref root) ∧ LeadsTo d limit root catalog

/-- What the catalog has for the pages, if anything. -/
def PagesEntry (d : Document) (limit : Nat) (v : Option Value) : Prop :=
  ∃ catalog, IsCatalog d limit catalog ∧ catalog.get? "Pages" = v

/-- What the page tree has for the count, if anything. -/
def CountEntry (d : Document) (limit : Nat) (v : Option Value) : Prop :=
  ∃ tree pages, PagesEntry d limit (some (.ref tree)) ∧ LeadsTo d limit tree pages ∧
    pages.get? "Count" = v

lemma catalog?_eq_some_iff {catalog : Dict} :
    d.catalog? = some catalog ↔ IsCatalog d referenceLimit catalog := by
  unfold Document.catalog? IsCatalog
  constructor
  · intro h
    split at h
    · next root hroot => exact ⟨root, hroot, toOption_dictionary_eq_some_iff.mp h⟩
    · cases h
  · rintro ⟨root, hroot, hdict⟩
    simp only [hroot, toOption_dictionary_eq_some_iff.mpr hdict]

lemma not_isCatalog_of_long_chain {limit k : Nat} {root last : ObjectId}
    (hroot : d.trailer.get? "Root" = some (.ref root)) (hchain : RefChain d k root last)
    (hsome : (d.object? last).isSome = true) (hk : limit < k) (catalog : Dict) :
    ¬IsCatalog d limit catalog := by
  rintro ⟨id, hid, hleads⟩
  rw [hroot] at hid
  cases hid
  have hvisit := visit_of_meets hleads
  rw [visit_of_long_chain hchain hsome hk] at hvisit
  cases hvisit

lemma pagesEntry_iff {v : Option Value} :
    PagesEntry d referenceLimit v ↔ ∃ catalog, d.catalog? = some catalog ∧
      catalog.get? "Pages" = v := by
  simp only [PagesEntry, catalog?_eq_some_iff]

lemma countEntry_iff {v : Option Value} :
    CountEntry d referenceLimit v ↔ ∃ catalog tree pages, d.catalog? = some catalog ∧
      catalog.get? "Pages" = some (.ref tree) ∧ d.dictionary tree = .ok pages ∧
      pages.get? "Count" = v := by
  simp only [CountEntry, pagesEntry_iff, dictionary_eq_ok_iff]
  constructor
  · rintro ⟨tree, pages, ⟨catalog, hcatalog, hpages⟩, hdict, hcount⟩
    exact ⟨catalog, tree, pages, hcatalog, hpages, hdict, hcount⟩
  · rintro ⟨catalog, tree, pages, hcatalog, hpages, hdict, hcount⟩
    exact ⟨tree, pages, ⟨catalog, hcatalog, hpages⟩, hdict, hcount⟩

/-! ## Outcomes -/

/-- Why a document at the path `p` has no page count, and the failure that says so. -/
inductive Refused (d : Document) (p : Path) : Failure → Prop
  | noCatalog (h : ∀ catalog, ¬IsCatalog d referenceLimit catalog) :
    Refused d p (.general .noCatalog)
  | noPages (h : PagesEntry d referenceLimit none) : Refused d p (.general .noPages)
  | pagesNotReference {v : Value} (h : PagesEntry d referenceLimit (some v))
    (hv : ∀ tree, v ≠ .ref tree) : Refused d p (.general .pagesNotReference)
  | noTree {tree : ObjectId} {f : Fault} (h : PagesEntry d referenceLimit (some (.ref tree)))
    (hf : NoDictionary d referenceLimit tree f) : Refused d p (.pdf f)
  | noCount (h : CountEntry d referenceLimit none) : Refused d p (.general .noCount)
  | countNotInteger {v : Value} (h : CountEntry d referenceLimit (some v))
    (hv : ∀ n, v ≠ .int n) : Refused d p (.general .countNotInteger)
  | negative {n : Int} (h : CountEntry d referenceLimit (some (.int n))) (hn : n < 0) :
    Refused d p (.general (.badCount n))
  | empty (h : CountEntry d referenceLimit (some (.int 0))) : Refused d p (.emptyPdf p)

/-- There is no other case. The steps are taken in the order in which they are made. -/
lemma counted_or_refused (d : Document) (p : Path) :
    (∃ n : Nat, 1 ≤ n ∧ CountEntry d referenceLimit (some (.int n))) ∨ ∃ f, Refused d p f := by
  cases hcatalog : d.catalog? with
  | none =>
    refine .inr ⟨_, .noCatalog fun catalog h => ?_⟩
    rw [catalog?_eq_some_iff.mpr h] at hcatalog
    cases hcatalog
  | some catalog =>
    cases hpages : catalog.get? "Pages" with
    | none => exact .inr ⟨_, .noPages (pagesEntry_iff.mpr ⟨catalog, hcatalog, hpages⟩)⟩
    | some v =>
      have hentry : PagesEntry d referenceLimit (some v) :=
        pagesEntry_iff.mpr ⟨catalog, hcatalog, hpages⟩
      by_cases href : ∃ tree, v = .ref tree
      · obtain ⟨tree, rfl⟩ := href
        cases hdict : d.dictionary tree with
        | error f => exact .inr ⟨_, .noTree hentry (dictionary_eq_error_iff.mp hdict)⟩
        | ok pages =>
          have hcounted : CountEntry d referenceLimit (pages.get? "Count") :=
            ⟨tree, pages, hentry, dictionary_eq_ok_iff.mp hdict, rfl⟩
          cases hcount : pages.get? "Count" with
          | none =>
            rw [hcount] at hcounted
            exact .inr ⟨_, .noCount hcounted⟩
          | some w =>
            rw [hcount] at hcounted
            by_cases hint : ∃ n, w = .int n
            · obtain ⟨n, rfl⟩ := hint
              rcases lt_trichotomy n 0 with hn | rfl | hn
              · exact .inr ⟨_, .negative hcounted hn⟩
              · exact .inr ⟨_, .empty hcounted⟩
              · obtain ⟨n, rfl⟩ := Int.eq_ofNat_of_zero_le hn.le
                exact .inl ⟨n, Int.ofNat_lt.mp hn, hcounted⟩
            · exact .inr ⟨_, .countNotInteger hcounted (not_exists.mp hint)⟩
      · exact .inr ⟨_, .pagesNotReference hentry (not_exists.mp href)⟩

lemma checkedCount_of_counted {n : Nat} (p : Path) (hn : 1 ≤ n)
    (h : CountEntry d referenceLimit (some (.int n))) : checkedCount p d = .ok n := by
  obtain ⟨catalog, tree, pages, hcatalog, hpages, hdict, hcount⟩ := countEntry_iff.mp h
  simp only [FileTree.checkedCount, Document.pageCount, hcatalog, hpages, hdict, hcount,
    if_pos (Int.natCast_nonneg n), Int.toNat_natCast, if_neg (Nat.ne_of_gt hn)]

lemma checkedCount_of_refused {p : Path} {f : Failure} (h : Refused d p f) :
    checkedCount p d = .error f := by
  unfold FileTree.checkedCount Document.pageCount
  cases h with
  | noCatalog h =>
    have hcatalog : d.catalog? = none := by
      rw [Option.eq_none_iff_forall_ne_some]
      intro catalog hcatalog
      exact h catalog (catalog?_eq_some_iff.mp hcatalog)
    rw [hcatalog]
  | noPages h =>
    obtain ⟨catalog, hcatalog, hpages⟩ := pagesEntry_iff.mp h
    simp only [hcatalog, hpages]
  | @pagesNotReference v h hv =>
    obtain ⟨catalog, hcatalog, hpages⟩ := pagesEntry_iff.mp h
    cases v with
    | ref tree => exact absurd rfl (hv tree)
    | _ => simp only [hcatalog, hpages]
  | noTree h hf =>
    obtain ⟨catalog, hcatalog, hpages⟩ := pagesEntry_iff.mp h
    simp only [hcatalog, hpages, dictionary_eq_error_iff.mpr hf]
  | noCount h =>
    obtain ⟨catalog, tree, pages, hcatalog, hpages, hdict, hcount⟩ := countEntry_iff.mp h
    simp only [hcatalog, hpages, hdict, hcount]
  | @countNotInteger v h hv =>
    obtain ⟨catalog, tree, pages, hcatalog, hpages, hdict, hcount⟩ := countEntry_iff.mp h
    cases v with
    | int n => exact absurd rfl (hv n)
    | _ => simp only [hcatalog, hpages, hdict, hcount]
  | negative h hn =>
    obtain ⟨catalog, tree, pages, hcatalog, hpages, hdict, hcount⟩ := countEntry_iff.mp h
    simp only [hcatalog, hpages, hdict, hcount, if_neg (Int.not_le.mpr hn)]
  | empty h =>
    obtain ⟨catalog, tree, pages, hcatalog, hpages, hdict, hcount⟩ := countEntry_iff.mp h
    simp only [hcatalog, hpages, hdict, hcount]
    rfl

theorem checkedCount_eq_ok_iff {p : Path} {n : Nat} :
    checkedCount p d = .ok n ↔ 1 ≤ n ∧ CountEntry d referenceLimit (some (.int n)) := by
  constructor
  · intro hok
    rcases counted_or_refused d p with ⟨m, hm, h⟩ | ⟨f, h⟩
    · rw [checkedCount_of_counted p hm h] at hok
      cases hok
      exact ⟨hm, h⟩
    · rw [checkedCount_of_refused h] at hok
      cases hok
  · rintro ⟨hn, h⟩
    exact checkedCount_of_counted p hn h

theorem checkedCount_eq_error_iff {p : Path} {f : Failure} :
    checkedCount p d = .error f ↔ Refused d p f := by
  constructor
  · intro herror
    rcases counted_or_refused d p with ⟨m, hm, h⟩ | ⟨g, h⟩
    · rw [checkedCount_of_counted p hm h] at herror
      cases herror
    · rw [checkedCount_of_refused h] at herror
      cases herror
      exact h
  · exact checkedCount_of_refused

/-- The count of a document that was read has 64 bits. -/
lemma isWord_of_countEntry {bytes : Bytes} {n : Int} {limit : Nat}
    (hload : Document.ofBytes bytes = .ok d) (h : CountEntry d limit (some (.int n))) :
    IsWord n := by
  obtain ⟨tree, pages, _, hpages, hcount⟩ := h
  cases hpages with
  | object _ _ ho _ =>
    have hwords : HoldsWords (.dict pages) := ofBytes_holdsWords hload _ (mem_of_object? ho)
    exact (entriesHoldWords_of_dict hwords).get? hcount n (.self _)

/-! ## Metadata -/

/-- The dictionary that the trailer holds, or refers to, as information on the document. -/
def IsInfo (d : Document) (info : Dict) : Prop :=
  d.trailer.get? "Info" = some (.dict info) ∨
    ∃ id, d.trailer.get? "Info" = some (.ref id) ∧ LeadsTo d referenceLimit id info

/-- The information on the document has a string under the key, which is the text in UTF-8. -/
def InfoText (d : Document) (key text : String) : Prop :=
  ∃ info s, IsInfo d info ∧ info.get? key = some (.str s) ∧ Bytes.toText? s = some text

lemma info?_eq_some_iff {info : Dict} : d.info? = some info ↔ IsInfo d info := by
  unfold Document.info? IsInfo
  constructor
  · intro h
    split at h
    · next id hid => exact .inr ⟨id, hid, toOption_dictionary_eq_some_iff.mp h⟩
    · next hentries =>
      cases h
      exact .inl hentries
    · cases h
  · rintro (hinfo | ⟨id, hid, hdict⟩)
    · simp only [hinfo]
    · simp only [hid, toOption_dictionary_eq_some_iff.mpr hdict]

lemma infoText?_eq_some_iff {key text : String} :
    d.infoText? key = some text ↔ InfoText d key text := by
  unfold Document.infoText? InfoText
  simp only [← info?_eq_some_iff]
  constructor
  · intro h
    split at h
    · next s hs =>
      obtain ⟨info, hinfo, hkey⟩ := Option.bind_eq_some_iff.mp hs
      exact ⟨info, s, hinfo, hkey, h⟩
    · cases h
  · rintro ⟨info, s, hinfo, hkey, htext⟩
    simp only [hinfo, Option.bind_some, hkey, htext]

/-- The texts of the metadata are those of the information on the document. -/
structure HasTexts (d : Document) (m : Metadata) : Prop where
  title : ∀ text, m.title = some text ↔ InfoText d "Title" text
  author : ∀ text, m.author = some text ↔ InfoText d "Author" text
  producer : ∀ text, m.producer = some text ↔ InfoText d "Producer" text

lemma countPages_of_open {t : FileTree} {p : Path} (h : t.openDocument p = .ok d) :
    t.countPages p = checkedCount p d := by
  rw [FileTree.countPages, h, ok_bind]

/-- The metadata are there if the count is, whatever the information on the document. -/
lemma metadata_of_open {t : FileTree} {p : Path} (h : t.openDocument p = .ok d) :
    t.metadata p = (t.countPages p).map fun n =>
      ⟨n, d.infoText? "Title", d.infoText? "Author", d.infoText? "Producer"⟩ := by
  rw [countPages_of_open h, FileTree.metadata, h, ok_bind]
  cases checkedCount p d with
  | ok n => rfl
  | error f => rfl

lemma ofBytes_of_open {t : FileTree} {p : Path} (h : t.openDocument p = .ok d) :
    ∃ bytes, Document.ofBytes bytes = .ok d := by
  unfold FileTree.openDocument FileTree.loadDocument at h
  split at h
  · split at h
    · cases h
    · next bytes _ => exact ⟨bytes, mapError_eq_ok.mp h⟩
  · cases h

/-- Whatever objects and trailer a document has, its page count is the count of the page tree that
its references lead to, if that is positive, and there is a failure for each way to miss it. The
metadata have this count and fail as it does, so no information on the document can spoil them. -/
theorem page_count_of_any_document {t : FileTree} {p : Path} (hopen : t.openDocument p = .ok d) :
    (∀ n : Nat, t.countPages p = .ok n ↔ 1 ≤ n ∧ CountEntry d referenceLimit (some (.int n))) ∧
    (∀ f, t.countPages p = .error f ↔ Refused d p f) ∧
    (∀ tree, (∃ f, NoDictionary d referenceLimit tree f) ↔
      ∀ dict, ¬LeadsTo d referenceLimit tree dict) ∧
    (∀ n, t.countPages p = .ok n → n < 9223372036854775808) ∧
    (∀ n, t.countPages p = .ok n ↔ ∃ m, t.metadata p = .ok m ∧ m.pageCount = n) ∧
    (∀ f, t.countPages p = .error f ↔ t.metadata p = .error f) ∧
    ∀ m, t.metadata p = .ok m → HasTexts d m := by
  have hcount := countPages_of_open hopen
  have hmetadata := metadata_of_open hopen
  refine ⟨fun n => ?_, fun f => ?_, fun tree => exists_noDictionary_iff, fun n hn => ?_,
    fun n => ?_, fun f => ?_, fun m hm => ?_⟩
  · rw [hcount, checkedCount_eq_ok_iff]
  · rw [hcount, checkedCount_eq_error_iff]
  · obtain ⟨bytes, hload⟩ := ofBytes_of_open hopen
    rw [hcount, checkedCount_eq_ok_iff] at hn
    exact Int.ofNat_lt.mp (isWord_of_countEntry hload hn.2).2
  · rw [hmetadata]
    cases t.countPages p with
    | ok k => simp [Except.map]
    | error f => simp [Except.map]
  · rw [hmetadata]
    cases t.countPages p with
    | ok k => simp [Except.map]
    | error g => simp [Except.map]
  · rw [hmetadata] at hm
    cases hn : t.countPages p with
    | ok k =>
      rw [hn] at hm
      cases hm
      exact ⟨fun _ => infoText?_eq_some_iff, fun _ => infoText?_eq_some_iff,
        fun _ => infoText?_eq_some_iff⟩
    | error f =>
      rw [hn] at hm
      cases hm

end

/-! ## Saved documents -/

section
variable {d d' : Document}

lemma KeepsObjects.refChain (h : KeepsObjects d d') {k : Nat} {id last : ObjectId}
    (hchain : RefChain d k id last) : RefChain d' k id last := by
  induction hchain with
  | nil id => exact .nil id
  | cons hid _ ih =>
    obtain ⟨o, ho, hkept⟩ := h.objects _ _ hid
    cases hkept with
    | value hkept =>
      rw [hkept.ref_eq] at ho
      exact .cons ho ih

lemma KeepsObjects.leadsTo (h : KeepsObjects d d') {limit : Nat} {id : ObjectId} {dict : Dict}
    (hdict : LeadsTo d limit id dict) :
    ∃ dict', LeadsTo d' limit id dict' ∧ KeptEntries dict dict' := by
  cases hdict with
  | object hk hchain ho _ =>
    obtain ⟨dict', ho', hkept⟩ := h.dict_object ho
    exact ⟨dict', .object hk (h.refChain hchain) ho' nofun, hkept⟩

lemma KeepsObjects.countEntry (h : KeepsObjects d d') {limit : Nat} {n : Int}
    (hcount : CountEntry d limit (some (.int n))) : CountEntry d' limit (some (.int n)) := by
  obtain ⟨tree, pages, ⟨catalog, ⟨root, hroot, hcatalog⟩, htree⟩, hpages, hcount⟩ := hcount
  obtain ⟨catalog', hcatalog', hkeptCatalog⟩ := h.leadsTo hcatalog
  obtain ⟨pages', hpages', hkeptPages⟩ := h.leadsTo hpages
  exact ⟨tree, pages', ⟨catalog', ⟨root, h.root_eq hroot, hcatalog'⟩,
    hkeptCatalog.get?_ref htree⟩, hpages', hkeptPages.get?_int hcount⟩

end

/-- A document whose root is behind so many references, and whose information is a number. -/
def chainDocument (links : Nat) (count : Int) : Document :=
  ⟨"1.5", ((List.range' 1 links).map fun n => (⟨n, 0⟩, .value (refTo (n + 1)))) ++
    [(⟨links + 1, 0⟩, .value (.dict [entry "Pages" (refTo (links + 2))])),
      (⟨links + 2, 0⟩, .value (.dict [entry "Count" (.int count)]))],
    [entry "Root" (refTo 1), entry "Info" (.int 7)]⟩

section
variable {links : Nat} {count : Int}

lemma chainDocument_ids (links : Nat) (count : Int) :
    (chainDocument links count).objects.map Prod.fst =
      (List.range' 1 (links + 2)).map fun k => (⟨k, 0⟩ : ObjectId) := by
  have hsplit : List.range' 1 (links + 2) = List.range' 1 links ++ [links + 1, links + 2] := by
    rw [← List.range'_append_1, Nat.add_comm 1 links]
    rfl
  rw [hsplit]
  simp [chainDocument, Function.comp_def]

lemma chainDocument_object? {id : ObjectId} {o : Object}
    (h : (id, o) ∈ (chainDocument links count).objects) :
    (chainDocument links count).object? id = some o := by
  refine object?_of_mem ?_ h
  rw [chainDocument_ids]
  exact nodup_numbered _

lemma chainDocument_catalog : (chainDocument links count).object? ⟨links + 1, 0⟩ =
    some (.value (.dict [entry "Pages" (refTo (links + 2))])) :=
  chainDocument_object? (List.mem_append_right _ (List.mem_cons_self ..))

lemma chainDocument_tree : (chainDocument links count).object? ⟨links + 2, 0⟩ =
    some (.value (.dict [entry "Count" (.int count)])) :=
  chainDocument_object? (List.mem_append_right _ (List.mem_cons_of_mem _ (List.mem_cons_self ..)))

/-- By induction from the end of the chain to its start. -/
lemma refChain_chainDocument_from {k n : Nat} (hk : n + k = links + 1) (hn : 1 ≤ n) :
    RefChain (chainDocument links count) k ⟨n, 0⟩ ⟨links + 1, 0⟩ := by
  induction k generalizing n with
  | zero =>
    obtain rfl : n = links + 1 := hk
    exact .nil _
  | succ k ih =>
    have hmem : n ∈ List.range' 1 links := List.mem_range'_1.mpr ⟨hn, by omega⟩
    exact .cons (chainDocument_object? (List.mem_append_left _ (List.mem_map_of_mem hmem)))
      (ih (by omega) (by omega))

lemma refChain_chainDocument :
    RefChain (chainDocument links count) links ⟨1, 0⟩ ⟨links + 1, 0⟩ :=
  refChain_chainDocument_from (Nat.add_comm ..) (Nat.le_refl _)

lemma countEntry_chainDocument {limit : Nat} (h : links ≤ limit) :
    CountEntry (chainDocument links count) limit (some (.int count)) :=
  ⟨⟨links + 2, 0⟩, [entry "Count" (.int count)],
    ⟨[entry "Pages" (refTo (links + 2))],
      ⟨⟨1, 0⟩, rfl, .object h refChain_chainDocument chainDocument_catalog nofun⟩, rfl⟩,
    .object (Nat.zero_le _) (.nil _) chainDocument_tree nofun, rfl⟩

lemma chainDocument_savedWhole (hlinks : links + 3 < 4294967296) (hcount : IsWord count)
    (hlength : (chainDocument links count).bytes.length < 4294967296) :
    SavedWhole (chainDocument links count) := by
  have hobjects : ∀ x ∈ (chainDocument links count).objects,
      SoundObject x.2 ∧ WritableObject x.2 := by
    intro x hx
    rcases List.mem_append.mp hx with hx | hx
    · obtain ⟨n, hn, rfl⟩ := List.mem_map.mp hx
      rw [List.mem_range'_1] at hn
      exact ⟨sound_refTo (by omega), trivial⟩
    · rcases List.mem_cons.mp hx with rfl | hx
      · exact ⟨sound_dict ["Pages"] rfl (by decide) ⟨sound_refTo (by omega), trivial⟩,
          trivial, trivial⟩
      · obtain rfl := List.mem_singleton.mp hx
        exact ⟨sound_dict ["Count"] rfl (by decide) ⟨trivial, trivial⟩, hcount, trivial⟩
  have hfits : Fits (chainDocument links count) := by
    refine fits_of_numbered rfl (chainDocument_ids links count) (fun x hx => (hobjects x hx).1)
      ?_ ?_ ?_ hlength
    · exact sound_dict ["Root", "Info"] rfl (by decide) ⟨sound_refTo (by decide), trivial, trivial⟩
    · exact ⟨trivial, ⟨by decide, by decide⟩, trivial⟩
    · simp [chainDocument]
  exact hfits.savedWhole fun x hx => (hobjects x hx).2

end

/-- A folder with one document in it. -/
def onlyDocument (d : Document) : FileTree :=
  ⟨[([Bytes.ofText "a.pdf"], .file d.bytes)], []⟩

def onlyPath : Path :=
  Path.join Path.here (Bytes.ofText "a.pdf")

lemma open_onlyDocument {d : Document} (h : SavedWhole d) :
    ∃ d', (onlyDocument d).openDocument onlyPath = .ok d' ∧ KeepsObjects d d' := by
  obtain ⟨d', hload, hkeep⟩ := h
  have hget : (onlyDocument d).get? [Bytes.ofText "a.pdf"] = some (.file d.bytes) := by
    simp [onlyDocument, FileTree.get?]
  exact ⟨d', openDocument_of_find (find_child_file (by decide) hget) hload, hkeep⟩

/-- A page tree behind two references promises as many pages as a count can. -/
def promised : FileTree :=
  onlyDocument (chainDocument 2 9223372036854775807)

theorem page_count_of_any_document_promised :
    ∃ d m, promised.openDocument onlyPath = .ok d ∧
      promised.countPages onlyPath = .ok 9223372036854775807 ∧
      promised.metadata onlyPath = .ok m ∧ m.pageCount = 9223372036854775807 ∧
      m.title = none := by
  have hlength : (chainDocument 2 9223372036854775807).bytes.length < 4294967296 := by
    decide +kernel
  obtain ⟨d, hopen, hkeep⟩ :=
    open_onlyDocument (chainDocument_savedWhole (by decide) ⟨by decide, by decide⟩ hlength)
  obtain ⟨hcount, _, _, _, hmetadata, _, htexts⟩ := page_count_of_any_document hopen
  have hn : promised.countPages onlyPath = .ok 9223372036854775807 :=
    (hcount _).mpr ⟨by decide, hkeep.countEntry (countEntry_chainDocument (by decide))⟩
  obtain ⟨m, hm, hpages⟩ := (hmetadata _).mp hn
  have hinfo : d.trailer.get? "Info" = some (.int 7) := by
    obtain ⟨w, hw, hkept⟩ := hkeep.trailer "Info" (.int 7) rfl
    rw [hw, hkept.int_eq]
  have htitle : m.title = none := by
    rw [Option.eq_none_iff_forall_ne_some]
    intro text htext
    obtain ⟨info, _, hdict | ⟨id, hid, _⟩, _⟩ := ((htexts m hm).title text).mp htext
    · rw [hinfo] at hdict
      cases hdict
    · rw [hinfo] at hid
      cases hid
  exact ⟨d, m, hopen, hn, hm, hpages, htitle⟩

/-- There is a catalog, and a page tree with a count, but more references lead to it than are
followed. -/
theorem long_chain_hides_catalog :
    ∃ d, (onlyDocument (chainDocument 140 1)).openDocument onlyPath = .ok d ∧
      CountEntry d 140 (some (.int 1)) ∧
      (onlyDocument (chainDocument 140 1)).countPages onlyPath = .error (.general .noCatalog) := by
  have hlength : (chainDocument 140 1).bytes.length < 4294967296 := by decide +kernel
  obtain ⟨d, hopen, hkeep⟩ :=
    open_onlyDocument (chainDocument_savedWhole (by decide) ⟨by decide, by decide⟩ hlength)
  refine ⟨d, hopen, hkeep.countEntry (countEntry_chainDocument (Nat.le_refl _)), ?_⟩
  obtain ⟨catalog, hcatalog, _⟩ := hkeep.dict_object chainDocument_catalog
  have hchain : RefChain d 140 ⟨1, 0⟩ ⟨141, 0⟩ := hkeep.refChain refChain_chainDocument
  rw [countPages_of_open hopen]
  refine checkedCount_of_refused (.noCatalog (not_isCatalog_of_long_chain (hkeep.root_eq rfl)
    hchain ?_ (by decide)))
  rw [hcatalog]
  rfl

end ScanBinder.Proofs
