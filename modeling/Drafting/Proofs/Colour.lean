import Mathlib
import Drafting.Proofs.Marks

/-!
# The colour a sentence names

`colour?` looks for colour names as a case-insensitive regular expression does: it tries the
places of the sentence from the left and, at each, the names longest first, comparing each
letter of a name with the folded character of the text.  The text it matches is then
lowercased and looked up among the names.

Lowercasing a text maps each character to one, except the capital dotted `İ`, which becomes
two.  Folding agrees with lowercasing but on the capital sigma, whose lowercase depends on its
neighbours, and pattern letters also match three characters that lowercase to something else:
`ı` and `İ` match `i`, and `ſ` matches `s`.  No colour name holds a sigma.  So in a text
without `ſ`, `ı` and `İ`, a colour name matches at a place exactly when it stands there in the
lowercased text (`startsIgnoringCase_eq_isPrefixOf`), and the text it matches lowercases to
the name itself (`lower_matched`).

The colour of such a text is read off its lowercase: the leftmost place where some colour
name stands, then the longest name there (`colour_leftmost_longest`).  Two names of one
length cannot both stand at one place, so the order of names of one length does not matter.
-/

namespace Drafting.Command

open Text

/-! ### Lowercase and fold -/

/-- What lowercasing makes of `c` in some context: its fold, or the final small sigma for a
capital sigma. -/
def LowersTo (c d : Char) : Prop :=
  d = fold c ∨ (c.toNat = 0x3A3 ∧ d = Char.ofNat 0x3C2)

theorem fold_sigma {c : Char} (hsigma : c.toNat = 0x3A3) : fold c = Char.ofNat 0x3C3 := by
  simp [fold, hsigma]

theorem lowerChar_eq_fold {c : Char} (hsigma : c.toNat ≠ 0x3A3) (hdot : c.toNat ≠ 0x130) :
    lowerChar c = [fold c] := by
  unfold lowerChar fold
  rw [if_neg hdot, if_neg hsigma, if_neg hdot]
  split <;> rfl

/-- Lowercasing a text without a capital dotted `İ` maps each character to one; by induction
on the text, whatever stands before it. -/
theorem lowerFrom_lowersTo (b : Bool) (cs : List Char) (hcs : ∀ c ∈ cs, c.toNat ≠ 0x130) :
    List.Forall₂ LowersTo cs (lowerFrom b cs) := by
  induction cs generalizing b with
  | nil => exact .nil
  | cons c rest ih =>
    have hrest : ∀ b, List.Forall₂ LowersTo rest (lowerFrom b rest) := fun b =>
      ih b fun d hd => hcs d (List.mem_cons_of_mem c hd)
    unfold lowerFrom
    by_cases hsigma : c.toNat = 0x3A3
    · -- a capital sigma becomes one small sigma, final or not
      simp only [hsigma, if_true, List.singleton_append]
      refine .cons ?_ (hrest _)
      cases b && !casedAhead rest
      · exact .inl (fold_sigma hsigma).symm
      · exact .inr ⟨hsigma, rfl⟩
    · simp only [hsigma, if_false, lowerChar_eq_fold hsigma (hcs c List.mem_cons_self),
        List.singleton_append]
      exact .cons (.inl rfl) (hrest _)

/-- A character that a pattern letter matches, case ignored, exactly when lowercasing makes
the letter of it: none of `ſ`, `ı` and `İ`. -/
def FoldsPlainly (c : Char) : Prop := c ≠ 'ſ' ∧ c ≠ 'ı' ∧ c ≠ 'İ'

instance (c : Char) : Decidable (FoldsPlainly c) := inferInstanceAs (Decidable (_ ∧ _))

theorem FoldsPlainly.toNat {c : Char} (hc : FoldsPlainly c) :
    c.toNat ≠ 0x17F ∧ c.toNat ≠ 0x131 ∧ c.toNat ≠ 0x130 := by
  obtain ⟨hs, hi, hI⟩ := hc
  refine ⟨fun h => hs ?_, fun h => hi ?_, fun h => hI ?_⟩ <;> exact Char.toNat_inj.mp h

/-- A pattern letter that is no small sigma. -/
def NoSigma (p : Char) : Prop := p ≠ Char.ofNat 0x3C2 ∧ p ≠ Char.ofNat 0x3C3

instance (p : Char) : Decidable (NoSigma p) := inferInstanceAs (Decidable (_ ∧ _))

/-- A letter without sigma matches a character that folds plainly as it matches the
character's lowercase. -/
theorem matchesIgnoringCase_eq {p c d : Char} (hc : FoldsPlainly c) (hp : NoSigma p)
    (hcd : LowersTo c d) : matchesIgnoringCase p c = (p == d) := by
  obtain ⟨hs, hi, -⟩ := hc.toNat
  have hdotless : (c.toNat == 0x131) = false := by simpa using hi
  have hlong : (c.toNat == 0x17F) = false := by simpa using hs
  have hplain : matchesIgnoringCase p c = (fold c == p) := by
    simp [matchesIgnoringCase, hdotless, hlong]
  rw [hplain]
  rcases hcd with rfl | ⟨hsigma, rfl⟩
  · simp [eq_comm]
  · -- a capital sigma folds to one small sigma and lowercases to the other: neither is `p`
    rw [fold_sigma hsigma]
    simp [Ne.symm hp.2, hp.1]

/-- A pattern without sigma matches a text whose characters fold plainly, case ignored,
exactly where it begins the text's lowercase; by induction on the pattern. -/
theorem startsIgnoringCase_eq_isPrefixOf {w cs ds : List Char} (hw : ∀ p ∈ w, NoSigma p)
    (hcs : ∀ c ∈ cs, FoldsPlainly c) (hds : List.Forall₂ LowersTo cs ds) :
    startsIgnoringCase w cs = w.isPrefixOf ds := by
  induction w generalizing cs ds with
  | nil => simp [startsIgnoringCase]
  | cons p ps ih =>
    cases hds with
    | nil => rfl
    | @cons c d cs' ds' hcd hrest =>
      have hmatch := matchesIgnoringCase_eq (hcs c List.mem_cons_self) (hw p List.mem_cons_self) hcd
      have htail := ih (fun q hq => hw q (List.mem_cons_of_mem p hq))
        (fun e he => hcs e (List.mem_cons_of_mem c he)) hrest
      simp only [startsIgnoringCase, List.isPrefixOf, hmatch, htail]

/-- A pattern is matched by the front of the text its own length long. -/
theorem startsIgnoringCase_take (w cs : List Char) :
    startsIgnoringCase w (cs.take w.length) = startsIgnoringCase w cs := by
  induction w generalizing cs with
  | nil => rfl
  | cons p ps ih =>
    cases cs with
    | nil => rfl
    | cons c cs => simp [startsIgnoringCase, ih]

/-! ### Colour names in a lowercased text -/

/-- Every letter of every colour name is no small sigma. -/
theorem colourNames_noSigma : ∀ col ∈ colourNames, ∀ p ∈ col.1.toList, NoSigma p := by
  -- checked as one Boolean, which the kernel evaluates without deep recursion
  have h : (colourNames.all fun col => col.1.toList.all fun p => decide (NoSigma p)) = true := by
    decide +kernel
  simpa [List.all_eq_true] using h

/-- The colour name `k` stands at place `i` of `ds`. -/
def NameAt (ds : List Char) (i : Nat) (k : String) : Prop :=
  k ∈ colourNames.map Prod.fst ∧ k.toList <+: ds.drop i

/-- The colour name that reading `ds` leftmost first, then longest first, finds: `k` stands at
`i`, no name stands before `i`, and no longer name stands at `i`. -/
structure LeftmostLongest (ds : List Char) (i : Nat) (k : String) : Prop where
  stands : NameAt ds i k
  leftmost : ∀ j < i, ∀ k', ¬NameAt ds j k'
  longest : ∀ k', NameAt ds i k' → k'.length ≤ k.length

/-! ### Searching from the left -/

/-- A search answers what its matcher finds at the first place where it finds something; by
induction on that place. -/
theorem search_of_first {α : Type} {m : List Char → Option α} {cs : List Char} {i : Nat} {a : α}
    (hbefore : ∀ j < i, m (cs.drop j) = none) (hat : m (cs.drop i) = some a) :
    search m cs = some a := by
  induction i generalizing cs with
  | zero =>
    cases cs with
    | nil => exact hat
    | cons c rest => rw [search_cons]; simp_all
  | succ i ih =>
    cases cs with
    | nil =>
      -- past the end every place is the empty text, where nothing was found first
      have hnil := hbefore 0 (Nat.zero_lt_succ i)
      rw [List.drop_nil] at hnil hat
      rw [hnil] at hat
      cases hat
    | cons c rest =>
      have hhere : m (c :: rest) = none := hbefore 0 (Nat.zero_lt_succ i)
      rw [search_cons, hhere, Option.none_or]
      exact ih (fun j hj => hbefore (j + 1) (by omega)) hat

/-- What a search finds, its matcher finds at some place. -/
theorem search_at {α : Type} {m : List Char → Option α} {cs : List Char} {a : α}
    (h : search m cs = some a) : ∃ j, m (cs.drop j) = some a := by
  induction cs with
  | nil => exact ⟨0, h⟩
  | cons c rest ih =>
    rw [search_cons] at h
    cases hhere : m (c :: rest) with
    | some b =>
      rw [hhere, Option.some_or] at h
      exact ⟨0, by rw [List.drop_zero, hhere, h]⟩
    | none =>
      rw [hhere, Option.none_or] at h
      obtain ⟨j, hj⟩ := ih h
      exact ⟨j + 1, hj⟩

/-- A search finds something when its matcher does at some place; by induction on the text. -/
theorem search_ne_none {α : Type} {m : List Char → Option α} {cs : List Char} {i : Nat}
    (hat : m (cs.drop i) ≠ none) : search m cs ≠ none := by
  induction cs generalizing i with
  | nil => simpa [search] using hat
  | cons c rest ih =>
    rw [search_cons]
    cases hhere : m (c :: rest) with
    | some b => simp
    | none =>
      cases i with
      | zero => exact absurd hhere hat
      | succ i => simpa using ih hat

theorem find?_key_eq_lookup (l : List (String × Nat)) (k : String) :
    (l.find? fun c => c.1 == k).map Prod.snd = l.lookup k := by
  induction l with
  | nil => rfl
  | cons col rest ih =>
    by_cases hk : col.1 = k
    · simp [List.lookup, hk]
    · have hk' : (k == col.1) = false := by simpa using Ne.symm hk
      simp [List.lookup, hk, hk', ih]

section Plain

variable {cs ds : List Char} (hcs : ∀ c ∈ cs, FoldsPlainly c) (hds : List.Forall₂ LowersTo cs ds)
include hcs hds

/-- A colour name matches a place of a text that folds plainly, case ignored, exactly when it
stands at that place of the text's lowercase. -/
theorem startsIgnoringCase_iff_nameAt {col : String × Nat} (hcol : col ∈ colourNames) (i : Nat) :
    startsIgnoringCase col.1.toList (cs.drop i) = true ↔ NameAt ds i col.1 := by
  have hdrop : ∀ c ∈ cs.drop i, FoldsPlainly c := fun c hc => hcs c ((List.drop_sublist i cs).subset hc)
  rw [startsIgnoringCase_eq_isPrefixOf (colourNames_noSigma col hcol) hdrop (List.forall₂_drop i hds),
    List.isPrefixOf_iff_prefix]
  exact ⟨fun h => ⟨List.mem_map_of_mem hcol, h⟩, fun h => h.2⟩

theorem colourAt_eq_none_iff (i : Nat) : colourAt (cs.drop i) = none ↔ ∀ k, ¬NameAt ds i k := by
  simp only [colourAt, Option.map_eq_none_iff, List.find?_eq_none, Bool.not_eq_true]
  constructor
  · rintro hnone k ⟨hk, hpre⟩
    obtain ⟨col, hcol, rfl⟩ := List.mem_map.mp hk
    have hstarts := (startsIgnoringCase_iff_nameAt hcs hds hcol i).mpr ⟨hk, hpre⟩
    simp [hnone col (List.mem_mergeSort.mpr hcol)] at hstarts
  · intro hnone col hcol
    have hcol' := List.mem_mergeSort.mp hcol
    cases hstarts : startsIgnoringCase col.1.toList (cs.drop i) with
    | false => rfl
    | true => exact absurd ((startsIgnoringCase_iff_nameAt hcs hds hcol' i).mp hstarts) (hnone _)

/-- At a place where a colour name stands, the names tried longest first stop at a longest
one: the text matched there is as long as the longest name standing there. -/
theorem colourAt_of_longest {i : Nat} {k : String} (hk : NameAt ds i k)
    (hlongest : ∀ k', NameAt ds i k' → k'.length ≤ k.length) :
    colourAt (cs.drop i) = some (String.ofList ((cs.drop i).take k.length)) := by
  obtain ⟨v, hkv⟩ : ∃ v, (k, v) ∈ colourNames := by
    obtain ⟨col, hcol, hk1⟩ := List.mem_map.mp hk.1
    exact ⟨col.2, hk1 ▸ hcol⟩
  have hsorted : coloursLongestFirst.Pairwise fun a b => decide (b.1.length ≤ a.1.length) = true :=
    List.pairwise_mergeSort (fun _ _ _ hab hbc => by simp at hab hbc ⊢; omega)
      (fun a b => by simp; omega) colourNames
  have hmatch : startsIgnoringCase (k, v).1.toList (cs.drop i) = true :=
    (startsIgnoringCase_iff_nameAt hcs hds hkv i).mpr hk
  unfold colourAt
  cases hfound : coloursLongestFirst.find? (fun col => startsIgnoringCase col.1.toList (cs.drop i)) with
  | none =>
    have := List.find?_eq_none.mp hfound (k, v) (List.mem_mergeSort.mpr hkv)
    simp_all
  | some col =>
    obtain ⟨hcolmatch, pre, post, hsplit, hpre⟩ := List.find?_eq_some_iff_append.mp hfound
    -- the name found is no shorter than `k`, which comes at it or after it
    have hge : k.length ≤ col.1.length := by
      have hkmem : (k, v) ∈ pre ++ col :: post := hsplit ▸ List.mem_mergeSort.mpr hkv
      rcases List.mem_append.mp hkmem with hin | hin
      · have hnot := hpre _ hin
        rw [hmatch] at hnot
        exact absurd hnot (by decide)
      rcases List.mem_cons.mp hin with heq | hin
      · subst heq
        exact le_rfl
      · rw [hsplit] at hsorted
        have := List.pairwise_append.mp hsorted
        simpa using List.rel_of_pairwise_cons this.2.1 hin
    -- and no longer, since it stands there too
    have hle : col.1.length ≤ k.length :=
      hlongest col.1 ((startsIgnoringCase_iff_nameAt hcs hds
        (List.mem_mergeSort.mp (List.mem_of_find?_eq_some hfound)) i).mp hcolmatch)
    simp [show col.1.length = k.length by omega]

/-- The text a colour name matches at a place lowercases to the name. -/
theorem lower_matched {i : Nat} {k : String} (hk : NameAt ds i k) :
    lower (String.ofList ((cs.drop i).take k.length)) = k := by
  obtain ⟨col, hcol, rfl⟩ := List.mem_map.mp hk.1
  set m := (cs.drop i).take col.1.length with hm
  have hsub : ∀ c ∈ m, c ∈ cs := fun c hc =>
    (List.drop_sublist i cs).subset ((List.take_sublist _ _).subset hc)
  have hmplain : ∀ c ∈ m, FoldsPlainly c := fun c hc => hcs c (hsub c hc)
  have hlow := lowerFrom_lowersTo false m fun c hc => (hmplain c hc).toNat.2.2
  -- the name begins the lowercase of what it matched, which is exactly as long
  have hpre : col.1.toList <+: lowerFrom false m := by
    rw [← List.isPrefixOf_iff_prefix,
      ← startsIgnoringCase_eq_isPrefixOf (colourNames_noSigma col hcol) hmplain hlow, hm,
      ← String.length_toList, startsIgnoringCase_take]
    exact (startsIgnoringCase_iff_nameAt hcs hds hcol i).mpr hk
  have hlen : (lowerFrom false m).length = col.1.toList.length := by
    have hfits : col.1.toList.length ≤ (cs.drop i).length := by
      rw [(List.forall₂_drop i hds).length_eq]
      exact hk.2.length_le
    rw [← hlow.length_eq, hm, List.length_take, String.length_toList]
    rw [String.length_toList] at hfits
    omega
  rw [lower, String.toList_ofList, ← hpre.eq_of_length hlen.symm, String.ofList_toList]

/-- What a colour name matches is the front of the text as long as a name standing there. -/
theorem colourAt_found {j : Nat} {matched : String} (h : colourAt (cs.drop j) = some matched) :
    ∃ k, NameAt ds j k ∧ matched = String.ofList ((cs.drop j).take k.length) := by
  obtain ⟨col, hfound, rfl⟩ := Option.map_eq_some_iff.mp h
  have hcol := List.mem_mergeSort.mp (List.mem_of_find?_eq_some hfound)
  have hstarts := List.find?_some hfound
  exact ⟨col.1, (startsIgnoringCase_iff_nameAt hcs hds hcol j).mp hstarts, rfl⟩

end Plain

/-! ### The leftmost and longest colour name -/

/-- Where some colour name stands in the lowercase, the text has a colour. -/
theorem colour?_ne_none_of_nameAt {t : String} (hcs : ∀ c ∈ t.toList, FoldsPlainly c)
    (hds : List.Forall₂ LowersTo t.toList (lower t).toList) {i : Nat} {k : String}
    (hk : NameAt (lower t).toList i k) : colour? t ≠ none := by
  have hsome : colourAt (t.toList.drop i) ≠ none := fun h => (colourAt_eq_none_iff hcs hds i).mp h k hk
  obtain ⟨matched, hsearch⟩ := Option.ne_none_iff_exists'.mp (search_ne_none hsome)
  obtain ⟨j, hj⟩ := search_at hsearch
  -- the first match is the text of a name, which lowercases to that name
  obtain ⟨k', hk', rfl⟩ := colourAt_found hcs hds hj
  obtain ⟨col, hcol, hcolk⟩ := List.mem_map.mp hk'.1
  simp only [colour?, hsearch, Option.bind_eq_bind, Option.bind_some]
  rw [lower_matched hcs hds hk']
  simp only [ne_eq, Option.map_eq_none_iff, List.find?_eq_none, beq_iff_eq, not_forall, not_not]
  exact ⟨col, hcol, hcolk⟩

/-- The colour of a text without `ſ`, `ı` and `İ` is read off its lowercase: when the colour
name `k` stands at the leftmost place where any stands and is the longest there, the colour
is the index the table gives `k`; and there is no colour exactly when no colour name stands
anywhere in the lowercase. -/
theorem colour_leftmost_longest (t : String) (ht : ∀ c ∈ t.toList, FoldsPlainly c) :
    (∀ i k, LeftmostLongest (lower t).toList i k → colour? t = colourNames.lookup k) ∧
      (colour? t = none ↔ ∀ i k, ¬NameAt (lower t).toList i k) := by
  have hlow : List.Forall₂ LowersTo t.toList (lower t).toList := by
    rw [lower, String.toList_ofList]
    exact lowerFrom_lowersTo false t.toList fun c hc => (ht c hc).toNat.2.2
  refine ⟨fun i k hll => ?_, fun hnone i k hk => colour?_ne_none_of_nameAt ht hlow hk hnone,
    fun hnone => ?_⟩
  · -- the search stops at the leftmost place, where the longest name is matched
    have hbefore : ∀ j < i, colourAt (t.toList.drop j) = none := fun j hj =>
      (colourAt_eq_none_iff ht hlow j).mpr (hll.leftmost j hj)
    have hsearch := search_of_first hbefore (colourAt_of_longest ht hlow hll.stands hll.longest)
    simp only [colour?, hsearch, Option.bind_eq_bind, Option.bind_some]
    rw [lower_matched ht hlow hll.stands, find?_key_eq_lookup]
  · -- no name stands anywhere: the search finds nothing
    have hsearch : search colourAt t.toList = none := search_eq_none fun y hy => by
      rw [List.suffix_iff_eq_drop.mp hy]
      exact (colourAt_eq_none_iff ht hlow _).mpr (hnone _)
    simp only [colour?, hsearch, Option.bind_eq_bind, Option.bind_none]

/-- Overlapping names resolve leftmost, then longest: `紫红` is read as the two-letter name,
index 6, and not as the `紫` at its front, index 200. -/
theorem colour_leftmost_longest_purple_red :
    (∀ c ∈ "紫红".toList, FoldsPlainly c) ∧ LeftmostLongest (lower "紫红").toList 0 "紫红" ∧
      colour? "紫红" = some 6 := by
  have hplain : ∀ c ∈ "紫红".toList, FoldsPlainly c := by
    have h : ("紫红".toList.all fun c => decide (FoldsPlainly c)) = true := by decide +kernel
    simpa [List.all_eq_true] using h
  have hlower : (lower "紫红").toList = ['紫', '红'] := by decide +kernel
  have hstands : NameAt (lower "紫红").toList 0 "紫红" :=
    ⟨List.mem_map.mpr ⟨("紫红", 6), by decide, rfl⟩, by rw [hlower]; exact List.prefix_refl _⟩
  -- every name standing at the front is at most two letters long
  have hnames : (colourNames.all fun col =>
      !col.1.toList.isPrefixOf ['紫', '红'] || decide (col.1.length ≤ 2)) = true := by
    decide +kernel
  have hlongest : ∀ k', NameAt (lower "紫红").toList 0 k' → k'.length ≤ "紫红".length := by
    rintro k' ⟨hk', hpre⟩
    obtain ⟨col, hcol, rfl⟩ := List.mem_map.mp hk'
    rw [hlower, List.drop_zero, ← List.isPrefixOf_iff_prefix] at hpre
    have := List.all_eq_true.mp hnames col hcol
    simp only [hpre, Bool.not_true, Bool.false_or, decide_eq_true_eq] at this
    exact this
  have hll : LeftmostLongest (lower "紫红").toList 0 "紫红" :=
    ⟨hstands, fun j hj => absurd hj (Nat.not_lt_zero j), hlongest⟩
  refine ⟨hplain, hll, ?_⟩
  rw [(colour_leftmost_longest "紫红" hplain).1 0 "紫红" hll]
  decide +kernel

end Drafting.Command
