import ScanBinder.Codec.Deflate
import ScanBinder.Codec.Handover

/-!
# Compressed data comes back

Inflating gives back what was compressed. A bit stream is seen as the list of its bits: each word
is read in front of any others, so a block is read step by step, and the steps lay down the data
again. A packer is any way of compressing for which this is so.
-/

namespace ScanBinder

/-- A way of compressing data that inflating undoes. -/
structure Packer where
  pack : Bytes → Bytes
  unpack_pack : ∀ data, (inflateLoosely (pack data)).toList = data

namespace Deflate
open Inflate

/-! ## Bits of a stream -/

/-- A stream of which the given bits are left. At most one byte is open. -/
structure Yields (s : BitStream) (bits : List Bool) : Prop where
  opening_eq : s.opening = bitsUp
  pending_lt : s.pending.length < 8
  bits_eq : s.pending ++ s.bytes.flatMap bitsUp = bits

theorem yields_up (bytes : Bytes) : Yields (.up bytes) (bytes.flatMap bitsUp) :=
  ⟨rfl, Nat.zero_lt_succ _, rfl⟩

theorem Yields.next {s : BitStream} {b : Bool} {bits : List Bool} (h : Yields s (b :: bits)) :
    ∃ s', s.next? = some (b, s') ∧ Yields s' bits := by
  obtain ⟨opening, pending, bytes⟩ := s
  obtain ⟨rfl, hlt, heq⟩ := h
  dsimp only at hlt heq
  cases pending with
  | cons c pending =>
    rw [List.cons_append, List.cons.injEq] at heq
    obtain ⟨rfl, heq⟩ := heq
    rw [List.length_cons] at hlt
    exact ⟨_, rfl, rfl, Nat.lt_of_succ_lt hlt, heq⟩
  | nil =>
    cases bytes with
    | nil => cases heq
    | cons x bytes =>
      rw [List.nil_append, List.flatMap_cons] at heq
      obtain ⟨c, cs, hopen, hcs⟩ : ∃ c cs, bitsUp x = c :: cs ∧ cs.length = 7 :=
        ⟨_, _, rfl, rfl⟩
      rw [hopen, List.cons_append, List.cons.injEq] at heq
      obtain ⟨rfl, heq⟩ := heq
      refine ⟨⟨bitsUp, cs, bytes⟩, ?_, rfl, ?_, heq⟩
      · simp only [BitStream.next?, hopen]
      · show cs.length < 8
        omega

theorem length_flatMap_bitsUp (bytes : Bytes) :
    (bytes.flatMap bitsUp).length = 8 * bytes.length := by
  induction bytes with
  | nil => rfl
  | cons x bytes ih =>
    have hbyte : (bitsUp x).length = 8 := rfl
    rw [List.flatMap_cons, List.length_append, ih, hbyte, List.length_cons]
    omega

theorem Yields.bitsLeft_eq {s : BitStream} {bits : List Bool} (h : Yields s bits) :
    s.bitsLeft = bits.length := by
  rw [← h.bits_eq, List.length_append, length_flatMap_bitsUp, BitStream.bitsLeft]

theorem number?_lowBits {n v : Nat} (hv : v < Nat.pow 2 n) {rest : List Bool} {s : BitStream}
    (h : Yields s (lowBits n v ++ rest)) : ∃ s', s.number? n = some (v, s') ∧ Yields s' rest := by
  induction n generalizing v s with
  | zero =>
    obtain rfl : v = 0 := Nat.lt_one_iff.mp hv
    exact ⟨s, rfl, h⟩
  | succ n ih =>
    obtain ⟨t, ht, hyield⟩ := Yields.next h
    have hhalf : v / 2 < Nat.pow 2 n := by
      have hpow : Nat.pow 2 (n + 1) = Nat.pow 2 n * 2 := rfl
      omega
    obtain ⟨u, hu, hrest⟩ := ih hhalf hyield
    refine ⟨u, ?_, hrest⟩
    have hbit : (decide (v % 2 = 1)).toNat + 2 * (v / 2) = v := by
      rcases Nat.mod_two_eq_zero_or_one v with hmod | hmod
      · simp [hmod]
        omega
      · simp [hmod]
        omega
    simp only [BitStream.number?, ht, hu, hbit]

/-! ## Words of a code -/

/-- The place of a word among the words of a code, if it is one. Lengths are walked as in
reading. -/
def wordPlace : (counts : List Nat) → (code first index : Nat) → List Bool → Option Nat
  | n :: counts, code, first, index, b :: w =>
    let code := code + b.toNat
    if code < first + n then if w.isEmpty then some (index + (code - first)) else none
    else wordPlace counts (2 * code) (2 * (first + n)) (index + n) w
  | _, _, _, _, _ => none

/-- A word is read in front of any other bits. -/
theorem walkLengths_append {symbols : Array Nat} {counts : List Nat} {code first index place : Nat}
    {w rest : List Bool} {s : BitStream} {sym : Nat}
    (hplace : wordPlace counts code first index w = some place)
    (hsym : symbols[place]? = some sym) (h : Yields s (w ++ rest)) :
    ∃ s', PrefixCode.walkLengths symbols counts code first index s = .ok (sym, s') ∧
      Yields s' rest := by
  induction counts generalizing code first index w s with
  | nil => cases hplace
  | cons n counts ih =>
    cases w with
    | nil => cases hplace
    | cons b w =>
      obtain ⟨t, ht, hyield⟩ := Yields.next h
      simp only [wordPlace] at hplace
      simp only [PrefixCode.walkLengths, ht]
      split at hplace
      · next hlt =>
        rw [if_pos hlt]
        split at hplace
        · next hend =>
          rw [List.isEmpty_iff] at hend
          subst hend
          cases hplace
          exact ⟨t, by rw [hsym], hyield⟩
        · cases hplace
      · next hge =>
        rw [if_neg hge]
        exact ih hplace hyield

set_option maxRecDepth 2048 in
/-- The fixed code of literals and lengths has words of seven, eight and nine bits. -/
theorem fixedLiterals_eq : fixedLiterals =
    ⟨[0, 0, 0, 0, 0, 0, 24, 152, 112, 0, 0, 0, 0, 0, 0],
      (List.range' 256 24 ++ (List.range' 0 144 ++ (List.range' 280 8 ++
        List.range' 144 112))).toArray⟩ := by
  unfold fixedLiterals PrefixCode.ofLengths
  rw [PrefixCode.mk.injEq]
  refine ⟨by decide, congrArg List.toArray ?_⟩
  decide

/-- Where a symbol stands in the order of the words. -/
def literalPlace (sym : Nat) : Nat :=
  if sym < 144 then 24 + sym
  else if sym < 256 then 176 + (sym - 144)
  else if sym < 280 then sym - 256
  else 168 + (sym - 280)

set_option maxRecDepth 1024 in
theorem wordPlace_literalWord : ∀ sym < 286,
    wordPlace fixedLiterals.counts 0 0 0 (literalWord sym) = some (literalPlace sym) := by
  rw [fixedLiterals_eq]
  decide

theorem symbols_literalPlace {sym : Nat} (h : sym < 286) :
    fixedLiterals.symbols[literalPlace sym]? = some sym := by
  have hrange : ∀ {start n i : Nat}, i < n → start + i = sym →
      (List.range' start n)[i]? = some sym := by
    intro start n i hi hsym
    rw [List.getElem?_range' hi, Nat.one_mul, hsym]
  rw [fixedLiterals_eq]
  unfold literalPlace
  simp only [List.getElem?_toArray, List.getElem?_append, List.length_range']
  split
  · rw [if_neg (by omega), if_pos (by omega)]
    exact hrange (by omega) (by omega)
  · split
    · rw [if_neg (by omega), if_neg (by omega), if_neg (by omega)]
      exact hrange (by omega) (by omega)
    · split
      · rw [if_pos (by omega)]
        exact hrange (by omega) (by omega)
      · rw [if_neg (by omega), if_neg (by omega), if_pos (by omega)]
        exact hrange (by omega) (by omega)

/-- A code of more than one word is read word by word. -/
theorem symbol_all {c : PrefixCode} (hsize : 1 < c.symbols.size) (f : InflateFault)
    {s s' : BitStream} {sym : Nat} (h : c.symbol s = .ok (sym, s')) :
    Manner.all.symbol c s = .ok (sym, s') ∧ symbol .all c f s = .ok (sym, s') := by
  have hempty : c.symbols.isEmpty = false := by
    simp only [Array.isEmpty, decide_eq_false_iff_not]
    omega
  have hlone : c.isLone = false := by
    simp only [PrefixCode.isLone, decide_eq_false_iff_not]
    omega
  have hread : Manner.all.symbol c s = .ok (sym, s') := by
    simp [Manner.symbol, Manner.all, PrefixCode.promptSymbol, hempty, hlone, h]
  exact ⟨hread, by simp [symbol, hread]⟩

theorem symbol_literalWord {sym : Nat} (hsym : sym < 286) {rest : List Bool} {s : BitStream}
    (h : Yields s (literalWord sym ++ rest)) :
    ∃ s', symbol .all fixedLiterals .noLiteralWord s = .ok (sym, s') ∧ Yields s' rest := by
  obtain ⟨s', hs, hyield⟩ :=
    walkLengths_append (wordPlace_literalWord sym hsym) (symbols_literalPlace hsym) h
  refine ⟨s', (symbol_all ?_ _ hs).2, hyield⟩
  rw [fixedLiterals_eq]
  simp

/-! ## Steps -/

set_option maxRecDepth 1024 in
theorem lengthPlace_fits : ∀ k < 256, lengthPlace (shortest + k) < 29 ∧
    (lengthBases[lengthPlace (shortest + k)]?.any fun b =>
      b.1 ≤ shortest + k && shortest + k - b.1 < Nat.pow 2 b.2) = true := by
  decide

/-- The first length of the symbol of a length, and the bits that are left for the rest of it. -/
theorem lengthBases_lengthPlace {n : Nat} (hshort : shortest ≤ n) (hlong : n ≤ longest) :
    lengthPlace n < 29 ∧ ∃ base extra, lengthBases[lengthPlace n]? = some (base, extra) ∧
      base ≤ n ∧ n - base < Nat.pow 2 extra := by
  unfold shortest at hshort
  unfold longest at hlong
  obtain ⟨hplace, hfits⟩ := lengthPlace_fits (n - 3) (by omega)
  rw [shortest, show 3 + (n - 3) = n by omega] at hplace hfits
  refine ⟨hplace, ?_⟩
  cases hbase : lengthBases[lengthPlace n]? with
  | none =>
    rw [hbase] at hfits
    cases hfits
  | some b =>
    rw [hbase, Option.any_some, Bool.and_eq_true, decide_eq_true_eq, decide_eq_true_eq] at hfits
    exact ⟨b.1, b.2, rfl, hfits⟩

theorem matchLength_lengthBits {n : Nat} (hshort : shortest ≤ n) (hlong : n ≤ longest)
    {rest : List Bool} {s : BitStream} (h : Yields s (lengthBits n ++ rest)) :
    ∃ sym t s', symbol .all fixedLiterals .noLiteralWord s = .ok (sym, t) ∧ 256 < sym ∧
      matchLength sym t = .ok (n, s') ∧ Yields s' rest := by
  obtain ⟨hplace, base, extra, hbase, hle, hlt⟩ := lengthBases_lengthPlace hshort hlong
  simp only [lengthBits, endSymbol, hbase, Option.getD_some, List.append_assoc] at h
  have hsym : 257 + lengthPlace n < 286 := by omega
  obtain ⟨t, ht, hyield⟩ := symbol_literalWord hsym h
  obtain ⟨s', hs, hrest⟩ := number?_lowBits hlt hyield
  refine ⟨_, t, s', ht, by omega, ?_, hrest⟩
  unfold matchLength
  rw [Nat.add_sub_cancel_left, hbase]
  simp only [number, hs, Except.map, Nat.add_sub_cancel' hle]

theorem matchDistance_reachWord {rest : List Bool} {s : BitStream}
    (h : Yields s (reachWord ++ rest)) :
    ∃ s', matchDistance .all fixedDistances s = .ok (reach, s') ∧ Yields s' rest := by
  have hplace : wordPlace fixedDistances.counts 0 0 0 reachWord = some 2 := by decide
  have hsymbol : fixedDistances.symbols[2]? = some 2 := by decide
  have hsize : 1 < fixedDistances.symbols.size := by decide
  obtain ⟨s', hs, hyield⟩ := walkLengths_append hplace hsymbol h
  have hread := (symbol_all hsize .noDistanceWord hs).1
  refine ⟨s', ?_, hyield⟩
  unfold matchDistance
  simp only [hread]
  rfl

section
variable {lit dist : PrefixCode} {s t u : BitStream} {sym : Nat}

theorem coded_literal (h : symbol .all lit .noLiteralWord s = .ok (sym, t)) (hsym : sym < 256)
    (fuel : Nat) (out : Array UInt8) : coded .all lit dist (fuel + 1) s out =
      coded .all lit dist fuel t (out.push (UInt8.ofNat sym)) := by
  have hfull : Manner.all.isFull out = false := rfl
  have hahead : Manner.all.looksAhead = false := rfl
  simp only [coded, hfull, h, hsym, hahead, Bool.false_and, Bool.false_eq_true, if_false, if_true]

theorem coded_end (h : symbol .all lit .noLiteralWord s = .ok (256, t)) (fuel : Nat)
    (out : Array UInt8) : coded .all lit dist (fuel + 1) s out = (out, .ok t) := by
  have hfull : Manner.all.isFull out = false := rfl
  simp [coded, hfull, h]

theorem coded_match {n d : Nat} {v : BitStream}
    (h : symbol .all lit .noLiteralWord s = .ok (sym, t)) (hsym : 256 < sym)
    (hlength : matchLength sym t = .ok (n, u)) (hdistance : matchDistance .all dist u = .ok (d, v))
    (fuel : Nat) (out : Array UInt8) : coded .all lit dist (fuel + 1) s out =
      coded .all lit dist fuel v (copyBack d n out) := by
  have hfull : Manner.all.isFull out = false := rfl
  have hahead : Manner.all.looksAhead = false := rfl
  have hwanted : Manner.all.wanted out n = n := rfl
  have hliteral : ¬sym < 256 := by omega
  have hend : ¬sym = 256 := by omega
  simp [coded, hfull, h, hliteral, hend, hlength, hdistance, hahead, hwanted]

end

/-- What a step adds to the bytes before it. -/
def Token.lay (out : Array UInt8) : Token → Array UInt8
  | literal b => out.push b
  | again n => copyBack reach n out

/-- A step that can be written. -/
def Token.Fits : Token → Prop
  | literal _ => True
  | again n => shortest ≤ n ∧ n ≤ longest

theorem coded_token {step : Token} (hstep : step.Fits) {rest : List Bool} {s : BitStream}
    (h : Yields s (step.bits ++ rest)) (fuel : Nat) (out : Array UInt8) :
    ∃ s', coded .all fixedLiterals fixedDistances (fuel + 1) s out =
        coded .all fixedLiterals fixedDistances fuel s' (step.lay out) ∧ Yields s' rest := by
  cases step with
  | literal b =>
    have hlt : b.toNat < 256 := b.toNat_lt
    obtain ⟨s', hs, hyield⟩ := symbol_literalWord (by omega) h
    refine ⟨s', ?_, hyield⟩
    rw [coded_literal hs hlt, UInt8.ofNat_toNat, Token.lay]
  | again n =>
    rw [Token.bits, List.append_assoc] at h
    obtain ⟨sym, t, u, hsym, hlarge, hlength, hyield⟩ := matchLength_lengthBits hstep.1 hstep.2 h
    obtain ⟨s', hdistance, hrest⟩ := matchDistance_reachWord hyield
    exact ⟨s', coded_match hsym hlarge hlength hdistance fuel out, hrest⟩

/-- Steps are read one after another, up to the end of the block. -/
theorem coded_tokens {steps : List Token} (hsteps : ∀ step ∈ steps, step.Fits) {rest : List Bool}
    {s : BitStream} (h : Yields s (steps.flatMap Token.bits ++ (literalWord endSymbol ++ rest)))
    {fuel : Nat} (hfuel : steps.length < fuel) (out : Array UInt8) :
    ∃ s', coded .all fixedLiterals fixedDistances fuel s out =
        (steps.foldl Token.lay out, .ok s') ∧ Yields s' rest := by
  induction steps generalizing s fuel out with
  | nil =>
    obtain ⟨s', hs, hyield⟩ := symbol_literalWord (by decide) h
    cases fuel with
    | zero => cases hfuel
    | succ fuel => exact ⟨s', coded_end hs fuel out, hyield⟩
  | cons step steps ih =>
    rw [List.flatMap_cons, List.append_assoc] at h
    cases fuel with
    | zero => cases hfuel
    | succ fuel =>
      obtain ⟨t, ht, hyield⟩ := coded_token (hsteps step (List.mem_cons_self ..)) h fuel out
      obtain ⟨s', hs, hrest⟩ := ih (fun x hx => hsteps x (List.mem_cons_of_mem _ hx)) hyield
        (Nat.lt_of_succ_lt_succ hfuel) (step.lay out)
      exact ⟨s', by rw [ht, hs, List.foldl_cons], hrest⟩

/-! ## The steps of data -/

theorem runLength_le (limit : Nat) (a b c : UInt8) (xs : Bytes) :
    runLength limit a b c xs ≤ limit ∧ runLength limit a b c xs ≤ xs.length := by
  fun_induction runLength limit a b c xs with
  | case1 limit a b c xs ih => exact ⟨Nat.succ_le_succ ih.1, Nat.succ_le_succ ih.2⟩
  | case2 => exact ⟨Nat.zero_le _, Nat.zero_le _⟩
  | case3 => exact ⟨Nat.zero_le _, Nat.zero_le _⟩

/-- A match of a run lays down the bytes of the run. -/
theorem copyBack_runLength {limit n : Nat} {a b c : UInt8} {xs : Bytes}
    (hn : n ≤ runLength limit a b c xs) {out : Array UInt8} {before : Bytes}
    (hout : out.toList = before ++ [a, b, c]) :
    (copyBack reach n out).toList = out.toList ++ xs.take n := by
  fun_induction runLength limit a b c xs generalizing n out before with
  | case1 limit b c a xs ih =>
    cases n with
    | zero => simp [copyBack]
    | succ n =>
      have hsize : out.size = before.length + 3 := by
        rw [← Array.length_toList, hout]
        simp
      have hback : out[out.size - reach]?.getD 0 = a := by
        rw [← Array.getElem?_toList, hout, hsize, reach]
        simp
      have hpush : (out.push a).toList = (before ++ [a]) ++ [b, c, a] := by
        simp [hout]
      have hreach : reach ≤ out.size := by
        rw [hsize]
        exact Nat.le_add_left ..
      rw [copyBack, if_pos hreach, hback, ih (Nat.le_of_succ_le_succ hn) hpush]
      simp
  | case2 =>
    obtain rfl := Nat.le_zero.mp hn
    simp [copyBack]
  | case3 =>
    obtain rfl := Nat.le_zero.mp hn
    simp [copyBack]

theorem tokensAfter_append (done : List Token) (skip : Nat) (a b c : UInt8) (xs : Bytes) :
    tokensAfter done skip a b c xs = done.reverse ++ tokensAfter [] skip a b c xs := by
  induction xs generalizing done skip a b c with
  | nil => simp [tokensAfter]
  | cons x xs ih =>
    cases skip with
    | succ skip => exact ih ..
    | zero =>
      simp only [tokensAfter]
      split
      · rw [ih, ih [_]]
        simp
      · rw [ih, ih [_]]
        simp

/-- The steps of data lay it down again. What belongs to the last step is there already. -/
theorem lay_tokensAfter {skip : Nat} {a b c : UInt8} {xs : Bytes} (hskip : skip ≤ xs.length)
    {out : Array UInt8} {before : Bytes} (hout : out.toList = before ++ [a, b, c] ++ xs.take skip) :
    ((tokensAfter [] skip a b c xs).foldl Token.lay out).toList = before ++ [a, b, c] ++ xs := by
  induction xs generalizing skip a b c out before with
  | nil => simpa [tokensAfter] using hout
  | cons x xs ih =>
    cases skip with
    | succ skip =>
      have hout' : out.toList = (before ++ [a]) ++ [b, c, x] ++ xs.take skip := by
        simpa using hout
      have hnext := ih (Nat.le_of_succ_le_succ hskip) hout'
      simpa [tokensAfter] using hnext
    | zero =>
      rw [List.take_zero, List.append_nil] at hout
      simp only [tokensAfter]
      split
      · next hrun =>
        obtain ⟨_, hle⟩ := runLength_le longest a b c (x :: xs)
        have hlay := copyBack_runLength (Nat.le_refl (runLength longest a b c (x :: xs))) hout
        generalize runLength longest a b c (x :: xs) = n at hrun hle hlay
        obtain ⟨n, rfl⟩ : ∃ k, n = k + 1 := ⟨n - 1, by unfold shortest at hrun; omega⟩
        have hout' : (copyBack reach (n + 1) out).toList =
            (before ++ [a]) ++ [b, c, x] ++ xs.take n := by
          simp [hlay, hout]
        have hnext := ih (Nat.le_of_succ_le_succ hle) hout'
        rw [tokensAfter_append, Nat.add_sub_cancel]
        simpa [Token.lay] using hnext
      · have hout' : (out.push x).toList = (before ++ [a]) ++ [b, c, x] ++ xs.take 0 := by
          simp [hout]
        have hnext := ih (Nat.zero_le _) hout'
        rw [tokensAfter_append]
        simpa [Token.lay] using hnext

theorem lay_literals (data : Bytes) (out : Array UInt8) :
    ((data.map Token.literal).foldl Token.lay out).toList = out.toList ++ data := by
  induction data generalizing out with
  | nil => simp
  | cons b data ih =>
    rw [List.map_cons, List.foldl_cons, ih]
    simp [Token.lay]

theorem lay_tokens (data : Bytes) : ((tokens data).foldl Token.lay #[]).toList = data := by
  unfold tokens
  split
  · next a b c rest =>
    have hout : (#[a, b, c] : Array UInt8).toList = [] ++ [a, b, c] ++ rest.take 0 := by simp
    have hlay := lay_tokensAfter (Nat.zero_le rest.length) hout
    rw [tokensAfter_append]
    simpa [Token.lay] using hlay
  · simpa using lay_literals data #[]

theorem tokensAfter_fits {skip : Nat} {a b c : UInt8} {xs : Bytes} :
    ∀ step ∈ tokensAfter [] skip a b c xs, step.Fits := by
  induction xs generalizing skip a b c with
  | nil => simp [tokensAfter]
  | cons x xs ih =>
    cases skip with
    | succ skip => exact ih
    | zero =>
      simp only [tokensAfter]
      split
      · next hrun =>
        rw [tokensAfter_append]
        intro step hstep
        rcases List.mem_append.mp hstep with hstep | hstep
        · obtain rfl := List.mem_singleton.mp (List.mem_reverse.mp hstep)
          exact ⟨hrun, (runLength_le ..).1⟩
        · exact ih step hstep
      · rw [tokensAfter_append]
        intro step hstep
        rcases List.mem_append.mp hstep with hstep | hstep
        · obtain rfl := List.mem_singleton.mp (List.mem_reverse.mp hstep)
          trivial
        · exact ih step hstep

theorem tokens_fits (data : Bytes) : ∀ step ∈ tokens data, step.Fits := by
  have hliteral : ∀ (bs : Bytes), ∀ step ∈ bs.map Token.literal, step.Fits := by
    intro bs step hstep
    obtain ⟨b, _, rfl⟩ := List.mem_map.mp hstep
    trivial
  unfold tokens
  split
  · next a b c rest =>
    rw [tokensAfter_append]
    intro step hstep
    rcases List.mem_append.mp hstep with hstep | hstep
    · exact hliteral [a, b, c] step hstep
    · exact tokensAfter_fits step hstep
  · exact hliteral data

/-! ## Bits as bytes -/

theorem bitsUp_byteOf : ∀ a b c d e f g h : Bool,
    bitsUp (byteOf [a, b, c, d, e, f, g, h]) = [a, b, c, d, e, f, g, h] := by
  decide

theorem bitsUp_byteOf_of_length {bits : List Bool} (h : bits.length = 8) :
    bitsUp (byteOf bits) = bits := by
  match bits, h with
  | [a, b, c, d, e, f, g, h], _ => exact bitsUp_byteOf a b c d e f g h

/-- Bytes hold the bits that they were made of, and fewer than eight zeros. -/
theorem packBits_bits (done : Bytes) (bits : List Bool) :
    ∃ k < 8, (packBits done bits).flatMap bitsUp =
      done.reverse.flatMap bitsUp ++ (bits ++ List.replicate k false) := by
  fun_induction packBits done bits with
  | case1 done a b c d e f g h rest ih =>
    obtain ⟨k, hk, heq⟩ := ih
    refine ⟨k, hk, ?_⟩
    rw [heq]
    simp [bitsUp_byteOf]
  | case2 done => exact ⟨0, by omega, by simp⟩
  | case3 done last hshort hempty =>
    have hlength : last.length < 8 := by
      match last, hshort with
      | [], _ | [_], _ | [_, _], _ | [_, _, _], _ | [_, _, _, _], _ | [_, _, _, _, _], _
      | [_, _, _, _, _, _], _ | [_, _, _, _, _, _, _], _ => simp
      | _ :: _ :: _ :: _ :: _ :: _ :: _ :: _ :: _, hshort =>
        exact (hshort _ _ _ _ _ _ _ _ _ rfl).elim
    have hpos : last.length ≠ 0 := fun h => hempty (List.length_eq_zero_iff.mp h)
    refine ⟨8 - last.length, by omega, ?_⟩
    have hpadded : (last ++ List.replicate (8 - last.length) false).length = 8 := by
      rw [List.length_append, List.length_replicate]
      omega
    simp [bitsUp_byteOf_of_length hpadded]

/-! ## All together -/

set_option maxRecDepth 1024 in
theorem bitsUp_injective {x y : UInt8} (h : bitsUp x = bitsUp y) : x = y := by
  have hbyte : ∀ n < 256, byteOf (bitsUp (UInt8.ofNat n)) = UInt8.ofNat n := by decide
  have hx := hbyte x.toNat x.toNat_lt
  have hy := hbyte y.toNat y.toNat_lt
  rw [UInt8.ofNat_toNat] at hx hy
  rw [← hx, ← hy, h]

theorem flatMap_bitsUp_injective {xs ys : Bytes} (h : xs.flatMap bitsUp = ys.flatMap bitsUp) :
    xs = ys := by
  have hlength := congrArg List.length h
  rw [length_flatMap_bitsUp, length_flatMap_bitsUp] at hlength
  induction xs generalizing ys with
  | nil =>
    cases ys with
    | nil => rfl
    | cons y ys => simp at hlength
  | cons x xs ih =>
    cases ys with
    | nil => simp at hlength
    | cons y ys =>
      rw [List.flatMap_cons, List.flatMap_cons] at h
      obtain ⟨hx, hxs⟩ := List.append_inj h rfl
      rw [List.length_cons, List.length_cons] at hlength
      rw [bitsUp_injective hx, ih hxs (by omega)]

/-- When only the zeros of the open byte are left, the bytes behind it follow. -/
theorem Yields.aligned_eq {s : BitStream} {k : Nat} (hk : k < 8) {bytes : Bytes}
    (h : Yields s (List.replicate k false ++ bytes.flatMap bitsUp)) : s.aligned = bytes := by
  have hlength := congrArg List.length h.bits_eq
  rw [List.length_append, List.length_append, List.length_replicate, length_flatMap_bitsUp,
    length_flatMap_bitsUp] at hlength
  have hpending := h.pending_lt
  have hopen : s.pending.length = (List.replicate k false).length := by
    rw [List.length_replicate]
    omega
  exact flatMap_bitsUp_injective (List.append_inj h.bits_eq hopen).2

theorem Token.bits_pos (step : Token) : 0 < step.bits.length := by
  have hword : ∀ sym, 0 < (literalWord sym).length := by
    intro sym
    unfold literalWord
    split
    · simp [word, lowBits]
    · split
      · simp [word, lowBits]
      · split
        · simp [word, lowBits]
        · simp [word, lowBits]
  cases step with
  | literal b => exact hword _
  | again n =>
    simp only [Token.bits, lengthBits, List.length_append]
    have := hword (endSymbol + 1 + lengthPlace n)
    omega

theorem length_le_flatMap_bits (steps : List Token) :
    steps.length ≤ (steps.flatMap Token.bits).length := by
  induction steps with
  | nil => exact Nat.le_refl 0
  | cons step steps ih =>
    have hpos := step.bits_pos
    rw [List.flatMap_cons, List.length_append, List.length_cons]
    omega

/-- A block of steps is read as the last one, and what follows it is left. -/
theorem blocks_blockBits {steps : List Token} (hsteps : ∀ step ∈ steps, step.Fits)
    (bytes : Bytes) (fuel : Nat) :
    blocks .all (fuel + 1) (.up (packBits [] (blockBits steps) ++ bytes)) #[] =
      (steps.foldl Token.lay #[], .finished bytes) := by
  obtain ⟨k, hk, hbits⟩ := packBits_bits [] (blockBits steps)
  have hstart : lowBits 3 3 = startBits := by decide
  have hyields : Yields (.up (packBits [] (blockBits steps) ++ bytes)) (lowBits 3 3 ++
      (steps.flatMap Token.bits ++ (literalWord endSymbol ++
        (List.replicate k false ++ bytes.flatMap bitsUp)))) := by
    have h := yields_up (packBits [] (blockBits steps) ++ bytes)
    rw [List.flatMap_append, hbits] at h
    simpa [hstart, blockBits] using h
  obtain ⟨s, hs, hyield⟩ := number?_lowBits (by decide) hyields
  have hfuel : steps.length < s.bitsLeft + 1 := by
    have hle := length_le_flatMap_bits steps
    rw [hyield.bitsLeft_eq, List.length_append]
    omega
  obtain ⟨t, ht, hrest⟩ := coded_tokens hsteps hyield hfuel #[]
  have hnumber : blockStart .all (.up (packBits [] (blockBits steps) ++ bytes)) = .ok (3, s) := by
    simp only [blockStart, number, hs]
    rfl
  have hblock : block .all (3 / 2) s #[] = (steps.foldl Token.lay #[], .ok t) := by
    unfold block
    rw [if_neg (by decide), if_pos (by decide), ht]
  simp only [blocks, hnumber, hblock]
  rw [hrest.aligned_eq hk]
  rfl

theorem adler32_lt (data : Array UInt8) : adler32 data < 4294967296 := by
  have hsums : ∀ (bytes : List UInt8) (sums : Nat × Nat),
      sums.1 < adlerPrime → sums.2 < adlerPrime →
      let last := bytes.foldl (fun s x =>
        ((s.1 + x.toNat) % adlerPrime, (s.2 + (s.1 + x.toNat)) % adlerPrime)) sums
      last.1 < adlerPrime ∧ last.2 < adlerPrime := by
    intro bytes
    induction bytes with
    | nil => exact fun _ ha hb => ⟨ha, hb⟩
    | cons x bytes ih =>
      intro sums _ _
      exact ih _ (Nat.mod_lt _ (by decide)) (Nat.mod_lt _ (by decide))
  obtain ⟨ha, hb⟩ := hsums data.toList (1, 0) (by decide) (by decide)
  unfold adler32
  rw [← Array.foldl_toList]
  unfold adlerPrime at ha hb ⊢
  dsimp only
  omega

theorem bigEndian_ofNatBE {n : Nat} (h : n < 4294967296) :
    Bytes.bigEndian (Bytes.ofNatBE 4 n) = n := by
  simp only [Bytes.ofNatBE, Bytes.bigEndian, List.foldl_cons, List.foldl_nil, UInt8.toNat_ofNat',
    Nat.pow_eq, Nat.reducePow]
  omega

/-- Inflating gives back what was compressed. -/
theorem inflateLoosely_deflate (data : Bytes) : (inflateLoosely (deflate data)).toList = data := by
  have hlay : (tokens data).foldl Token.lay #[] = data.toArray := by
    rw [← Array.toList_inj, lay_tokens]
  have hblocks := blocks_blockBits (tokens_fits data) (Bytes.ofNatBE 4 (adler32 data.toArray))
  rw [hlay] at hblocks
  have hinflate : inflate .all (deflate data) =
      (data.toArray, .finished (Bytes.ofNatBE 4 (adler32 data.toArray))) := by
    have hheader : isHeader 0x78 0xDA = true := by decide
    simp only [deflate, header, List.cons_append, List.nil_append, inflate, hheader, if_true]
    exact hblocks _
  have hsum := bigEndian_ofNatBE (adler32_lt data.toArray)
  generalize hchecksum : adler32 data.toArray = n at hinflate hsum
  simp only [Bytes.ofNatBE] at hinflate hsum
  unfold inflateLoosely
  simp only [hinflate, hsum, hchecksum, if_true]

end Deflate

/-- Compression with the fixed codes. -/
def Packer.fixed : Packer :=
  ⟨deflate, Deflate.inflateLoosely_deflate⟩

end ScanBinder
