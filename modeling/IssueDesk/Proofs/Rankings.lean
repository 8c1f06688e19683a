import IssueDesk.Picker.Fuzzy
import Mathlib.Data.List.Nodup
import Mathlib.Order.Basic

/-! Ranking by score, seen from the places of what is ranked. A ranking lists every place that has a
score once, a higher score first and of two alike the earlier place (`Ranks`). There is exactly one
such list, and `rank` finds it. Elements that have been ranked stay as they are when each is given its
score again. For that the score has to be one of the label: a matcher that remembers what it was given
before may score the same labels otherwise when they come in another order. -/

namespace IssueDesk

/-- Sorting keeps the order of what may stand either way. -/
theorem pairwise_mergeSort_stable {le : α → α → Bool}
    (htrans : ∀ a b c, le a b = true → le b c = true → le a c = true)
    (htotal : ∀ a b, (le a b || le b a) = true) {r : α → α → Prop} {xs : List α}
    (hxs : xs.Pairwise r) :
    (xs.mergeSort le).Pairwise fun a b => le a b = true ∧ (le b a = true → r a b) := by
  have hsorted := List.pairwise_mergeSort (List.zipIdxLE_trans htrans)
    (List.zipIdxLE_total htotal) xs.zipIdx
  have hplaces : ((xs.zipIdx.mergeSort (List.zipIdxLE le)).map Prod.snd).Nodup := by
    rw [((List.mergeSort_perm xs.zipIdx (List.zipIdxLE le)).map Prod.snd).nodup_iff,
      List.zipIdx_map_snd]
    exact List.nodup_range'
  rw [← List.mergeSort_zipIdx, List.pairwise_map]
  refine (hsorted.and (List.pairwise_map.1 hplaces)).imp_of_mem ?_
  rintro ⟨a, i⟩ ⟨b, j⟩ ha hb ⟨hle, hne⟩
  rw [List.mem_mergeSort, List.mk_mem_zipIdx_iff_getElem?] at ha hb
  obtain ⟨hi, rfl⟩ := List.getElem?_eq_some_iff.1 ha
  obtain ⟨hj, rfl⟩ := List.getElem?_eq_some_iff.1 hb
  unfold List.zipIdxLE at hle
  dsimp only at hle hne
  split at hle
  next hforth =>
    refine ⟨hforth, fun hback => ?_⟩
    rw [if_pos hback, decide_eq_true_eq] at hle
    exact List.pairwise_iff_getElem.1 hxs i j hi hj (by omega)
  next => cases hle

theorem outranks_trans (a b c : Int × α) (hab : outranks a b = true) (hbc : outranks b c = true) :
    outranks a c = true := by
  simp only [outranks, decide_eq_true_eq] at *
  omega

theorem outranks_total (a b : Int × α) : (outranks a b || outranks b a) = true := by
  simp only [outranks, Bool.or_eq_true, decide_eq_true_eq]
  omega

/-- What has a score, each with it. -/
def kept (scored : List (Option Int × α)) : List (Int × α) :=
  scored.filterMap fun (score, x) => score.map fun score => (score, x)

theorem rank_eq_kept (scored : List (Option Int × α)) :
    rank scored = ((kept scored).mergeSort outranks).map Prod.snd := rfl

theorem kept_map (f : α → β) (scored : List (Option Int × α)) :
    kept (scored.map fun entry => (entry.1, f entry.2)) =
      (kept scored).map fun entry => (entry.1, f entry.2) := by
  rw [kept, kept, List.filterMap_map, List.map_filterMap]
  refine List.filterMap_congr fun entry _ => ?_
  rw [Option.map_map]
  rfl

/-- Only the scores settle the ranking. -/
theorem rank_map (f : α → β) (scored : List (Option Int × α)) :
    rank (scored.map fun entry => (entry.1, f entry.2)) = (rank scored).map f := by
  have hsorted : ((kept scored).map fun entry => (entry.1, f entry.2)).mergeSort outranks =
      ((kept scored).mergeSort outranks).map fun entry => (entry.1, f entry.2) := by
    symm
    apply List.map_mergeSort
    exact fun _ _ _ _ => rfl
  rw [rank_eq_kept, rank_eq_kept, kept_map, hsorted, List.map_map, List.map_map]
  rfl

/-! Ranking with a score for every element. -/

/-- The elements that have a score, in the order of rank. -/
def rankWith (score : α → Option Int) (xs : List α) : List α :=
  rank (xs.map fun x => (score x, x))

section

variable {score : α → Option Int} {xs : List α}

theorem kept_scored : kept (xs.map fun x => (score x, x)) =
    xs.filterMap fun x => (score x).map fun s => (s, x) := by
  rw [kept, List.filterMap_map]
  rfl

theorem mem_kept {s : Int} {x : α} :
    (s, x) ∈ kept (xs.map fun x => (score x, x)) ↔ x ∈ xs ∧ score x = some s := by
  rw [kept_scored, List.mem_filterMap]
  constructor
  · rintro ⟨y, hy, hentry⟩
    obtain ⟨t, ht, hsame⟩ := Option.map_eq_some_iff.1 hentry
    cases hsame
    exact ⟨hy, ht⟩
  · rintro ⟨hx, hs⟩
    exact ⟨x, hx, by rw [hs, Option.map_some]⟩

theorem mem_rankWith {x : α} : x ∈ rankWith score xs ↔ x ∈ xs ∧ (score x).isSome := by
  rw [rankWith, rank_eq_kept, List.mem_map, Option.isSome_iff_exists]
  constructor
  · rintro ⟨⟨s, y⟩, hmem, rfl⟩
    obtain ⟨hy, hs⟩ := mem_kept.1 (List.mem_mergeSort.1 hmem)
    exact ⟨hy, s, hs⟩
  · rintro ⟨hx, s, hs⟩
    exact ⟨(s, x), List.mem_mergeSort.2 (mem_kept.2 ⟨hx, hs⟩), rfl⟩

/-- A higher score comes first, and what scores alike keeps its order. -/
theorem pairwise_rankWith {r : α → α → Prop} (hxs : xs.Pairwise r) :
    (rankWith score xs).Pairwise fun x y =>
      ∃ s t, score x = some s ∧ score y = some t ∧ (t < s ∨ t = s ∧ r x y) := by
  have hkept : (kept (xs.map fun x => (score x, x))).Pairwise fun a b => r a.2 b.2 := by
    rw [kept_scored]
    refine hxs.filterMap _ fun x y hr a ha b hb => ?_
    obtain ⟨s, -, rfl⟩ := Option.map_eq_some_iff.1 ha
    obtain ⟨t, -, rfl⟩ := Option.map_eq_some_iff.1 hb
    exact hr
  rw [rankWith, rank_eq_kept, List.pairwise_map]
  refine (pairwise_mergeSort_stable outranks_trans outranks_total hkept).imp_of_mem ?_
  rintro ⟨s, x⟩ ⟨t, y⟩ hx hy ⟨hle, hties⟩
  simp only [outranks, decide_eq_true_eq] at hle hties
  refine ⟨s, t, (mem_kept.1 (List.mem_mergeSort.1 hx)).2,
    (mem_kept.1 (List.mem_mergeSort.1 hy)).2, ?_⟩
  rcases Int.lt_or_eq_of_le hle with hlt | heq
  · exact Or.inl hlt
  · exact Or.inr ⟨heq, hties (Int.le_of_eq heq.symm)⟩

/-- What has been ranked is in the order of its scores already. -/
theorem rankWith_rankWith : rankWith score (rankWith score xs) = rankWith score xs := by
  have hagain : kept ((rankWith score xs).map fun x => (score x, x)) =
      (kept (xs.map fun x => (score x, x))).mergeSort outranks := by
    rw [kept_scored, rankWith, rank_eq_kept, List.filterMap_map]
    refine (List.filterMap_congr fun entry hmem => ?_).trans List.filterMap_some
    have hscore := (mem_kept.1 (List.mem_mergeSort.1 hmem)).2
    show (score entry.2).map (·, entry.2) = some entry
    rw [hscore, Option.map_some]
  rw [rankWith, rank_eq_kept, hagain, List.mergeSort_of_pairwise
    (List.pairwise_mergeSort outranks_trans outranks_total _)]
  rfl

end

/-! Rankings by places. -/

section

variable {scored : List (Option Int × α)}

/-- Of two places with scores the first comes before the second: its score is higher, or the scores
are the same and it is the earlier place. -/
def Precedes (scored : List (Option Int × α)) (first second : Fin scored.length) : Prop :=
  ∃ s t, scored[first].1 = some s ∧ scored[second].1 = some t ∧ (t < s ∨ t = s ∧ first < second)

theorem precedes_iff {first second : Fin scored.length} {s t : Int}
    (hs : scored[first].1 = some s) (ht : scored[second].1 = some t) :
    Precedes scored first second ↔ t < s ∨ t = s ∧ first < second := by
  constructor
  · rintro ⟨s', t', hs', ht', hlt⟩
    cases hs.symm.trans hs'
    cases ht.symm.trans ht'
    exact hlt
  · exact fun hlt => ⟨s, t, hs, ht, hlt⟩

instance (first second : Fin scored.length) : Decidable (Precedes scored first second) :=
  match hs : scored[first].1, ht : scored[second].1 with
  | some _, some _ => decidable_of_iff' _ (precedes_iff hs ht)
  | none, _ => isFalse fun ⟨_, _, hs', _⟩ => nomatch hs.symm.trans hs'
  | some _, none => isFalse fun ⟨_, _, _, ht', _⟩ => nomatch ht.symm.trans ht'

/-- Every place that has a score is listed, in the order of rank. -/
structure Ranks (scored : List (Option Int × α)) (places : List (Fin scored.length)) : Prop where
  mem : ∀ place, place ∈ places ↔ scored[place].1.isSome
  ordered : places.Pairwise (Precedes scored)

/-- The elements at the places that have a score, in the order of rank. -/
def IsRanking (scored : List (Option Int × α)) (result : List α) : Prop :=
  ∃ places, Ranks scored places ∧ result = places.map fun place => scored[place].2

theorem Precedes.asymm {first second : Fin scored.length} (h : Precedes scored first second)
    (h' : Precedes scored second first) : False := by
  obtain ⟨s, t, hs, ht, hlt⟩ := h
  have hlt' := (precedes_iff ht hs).1 h'
  omega

theorem Ranks.nodup {places : List (Fin scored.length)} (h : Ranks scored places) :
    places.Nodup :=
  h.ordered.imp fun hprecedes hsame => (hsame ▸ hprecedes).asymm (hsame ▸ hprecedes)

theorem Ranks.unique {places places' : List (Fin scored.length)} (h : Ranks scored places)
    (h' : Ranks scored places') : places = places' := by
  refine List.Perm.eq_of_pairwise (fun first second _ _ hforth hback => (hforth.asymm hback).elim)
    h.ordered h'.ordered ((List.perm_ext_iff_of_nodup h.nodup h'.nodup).2 fun place => ?_)
  rw [h.mem, h'.mem]

theorem rank_isRanking (scored : List (Option Int × α)) : IsRanking scored (rank scored) := by
  let score := fun place : Fin scored.length => scored[place].1
  refine ⟨rankWith score (List.finRange scored.length), ⟨fun place => ?_, ?_⟩, ?_⟩
  · rw [mem_rankWith, and_iff_right (List.mem_finRange place)]
  · exact pairwise_rankWith (List.pairwise_lt_finRange scored.length)
  · rw [rankWith, ← rank_map, List.map_map]
    exact congrArg rank (List.map_getElem_finRange scored).symm

theorem isRanking_iff {result : List α} : IsRanking scored result ↔ rank scored = result := by
  constructor
  · rintro ⟨places, hplaces, rfl⟩
    obtain ⟨places', hplaces', hrank⟩ := rank_isRanking scored
    rw [hrank, hplaces'.unique hplaces]
  · rintro rfl
    exact rank_isRanking scored

end

/-! Options ranked by their labels. -/

theorem Fuzzy.length_scores (filter : List Char) (cells : Array Fuzzy.Cell)
    (labels : List (List Char)) : (Fuzzy.scores filter cells labels).length = labels.length := by
  induction labels generalizing cells with
  | nil => rfl
  | cons label rest ih => exact congrArg (· + 1) (ih _)

/-- The scores of options, as one matcher gives them to their labels one after the other. -/
def labelScores (options : List SelectOption) (filter : String) : List (Option Int) :=
  Fuzzy.scores filter.toList #[] (options.map (·.label.toList))

theorem labelScores_zip (options : List SelectOption) (filter : String) :
    ((labelScores options filter).zip options).map Prod.snd = options := by
  apply List.map_snd_zip
  have hlength : (labelScores options filter).length = options.length := by
    rw [labelScores, Fuzzy.length_scores, List.length_map]
  exact Nat.le_of_eq hlength.symm

theorem fuzzyFilter_eq {options : List SelectOption} {filter : String} (h : filter ≠ "") :
    fuzzyFilter options filter = rank ((labelScores options filter).zip options) := by
  have hsome : ¬filter.isEmpty = true := by rwa [String.isEmpty_iff]
  exact if_neg hsome

theorem rankBy_eq {score : String → String → Option Int} {options : List SelectOption}
    {filter : String} (h : filter ≠ "") :
    rankBy score options filter = rankWith (fun option => score option.label filter) options := by
  rw [rankBy, if_neg (by rwa [String.isEmpty_iff])]
  rfl

/-- The matcher gives to the labels of some options the scores of a function of the label and the
filter. -/
def ScoredBy (score : String → String → Option Int) (options : List SelectOption)
    (filter : String) : Prop :=
  labelScores options filter = options.map fun option => score option.label filter

instance (score : String → String → Option Int) (options : List SelectOption) (filter : String) :
    Decidable (ScoredBy score options filter) :=
  inferInstanceAs (Decidable (_ = _))

theorem fuzzyFilter_eq_rankBy {score : String → String → Option Int} {options : List SelectOption}
    {filter : String} (hfilter : filter ≠ "") (hscored : ScoredBy score options filter) :
    fuzzyFilter options filter = rankBy score options filter := by
  rw [fuzzyFilter_eq hfilter, rankBy_eq hfilter, hscored, rankWith, List.map_prod_right_eq_zip]

/-- Options that are ranked by any function of the label and the filter. The result is the ranking of
those that have a score, and nothing else is one; ranked again it stays as it is; and the empty filter
keeps all options in order. The fuzzy filter gives the ranking by the scores of its matcher. It is the
ranking by a function wherever the matcher scores as the function does, and where that is so of the
result too, a second pass leaves the result as it is. -/
theorem ranking_is_exact (score : String → String → Option Int) (options : List SelectOption)
    (filter : String) (hfilter : filter ≠ "") :
    let scored := options.map fun option => (score option.label filter, option)
    let matched := (labelScores options filter).zip options
    ((∀ result, IsRanking scored result ↔ rankBy score options filter = result) ∧
      rankBy score (rankBy score options filter) filter = rankBy score options filter ∧
      rankBy score options "" = options) ∧
    (matched.map Prod.snd = options ∧
      (∀ result, IsRanking matched result ↔ fuzzyFilter options filter = result) ∧
      fuzzyFilter options "" = options) ∧
    (ScoredBy score options filter →
      fuzzyFilter options filter = rankBy score options filter ∧
      (ScoredBy score (fuzzyFilter options filter) filter →
        fuzzyFilter (fuzzyFilter options filter) filter = fuzzyFilter options filter)) := by
  intro scored matched
  have hagain : rankBy score (rankBy score options filter) filter = rankBy score options filter := by
    rw [rankBy_eq hfilter, rankBy_eq hfilter, rankWith_rankWith]
  refine ⟨⟨fun result => ?_, hagain, rfl⟩, ⟨labelScores_zip options filter, fun result => ?_, rfl⟩,
    fun hscored => ?_⟩
  · rw [rankBy_eq hfilter]
    exact isRanking_iff
  · rw [fuzzyFilter_eq hfilter]
    exact isRanking_iff
  · have hranked := fuzzyFilter_eq_rankBy hfilter hscored
    refine ⟨hranked, fun hresult => ?_⟩
    rw [fuzzyFilter_eq_rankBy hfilter hresult, hranked, hagain]

/-- The score of a label for a matcher that has seen nothing yet. -/
def freshScore (label filter : String) : Option Int :=
  (Fuzzy.score #[] filter.toList label.toList).1

/-- One does not match, three score alike, and of these one stands twice. The last is the best. -/
def createdOptions : List SelectOption :=
  [⟨"deleted", "Issue Deleted", none⟩, ⟨"created", "Issue Created", none⟩,
    ⟨"restored", "Issue Created", none⟩, ⟨"created", "Issue Created", none⟩,
    ⟨"create", "Create Issue", none⟩]

theorem created_options_are_ranked :
    let best : List SelectOption :=
      [⟨"create", "Create Issue", none⟩, ⟨"created", "Issue Created", none⟩,
        ⟨"restored", "Issue Created", none⟩, ⟨"created", "Issue Created", none⟩]
    "cr" ≠ "" ∧ ScoredBy freshScore createdOptions "cr" ∧ ScoredBy freshScore best "cr" ∧
      rankBy freshScore createdOptions "cr" = best ∧ rankBy freshScore best "cr" = best ∧
      IsRanking ((labelScores createdOptions "cr").zip createdOptions) best ∧
      fuzzyFilter best "cr" = best := by
  intro best
  have hfilter : "cr" ≠ "" := by decide
  have hscored : ScoredBy freshScore createdOptions "cr" := by decide +kernel
  have hbest : ScoredBy freshScore best "cr" := by decide +kernel
  have hbestRanking : IsRanking ((labelScores createdOptions "cr").zip createdOptions) best :=
    ⟨[⟨4, by decide +kernel⟩, ⟨1, by decide +kernel⟩, ⟨2, by decide +kernel⟩,
      ⟨3, by decide +kernel⟩], ⟨by decide +kernel, by decide +kernel⟩, rfl⟩
  obtain ⟨⟨-, hagain, -⟩, ⟨-, hmatched, -⟩, hsame⟩ :=
    ranking_is_exact freshScore createdOptions "cr" hfilter
  have hresult := (hmatched best).1 hbestRanking
  obtain ⟨hranked, hsecond⟩ := hsame hscored
  rw [← hranked, hresult] at hagain
  rw [hresult] at hsecond
  exact ⟨hfilter, hscored, hbest, hranked.symm.trans hresult, hagain, hbestRanking,
    hsecond hbest⟩

/-- The matcher keeps its cells from one label to the next. Here the second label gets a bonus that it
does not get as the first one, and a second pass turns the two around. -/
theorem second_pass_may_reorder :
    let options := ["b-Ba", "BBaB"].map SelectOption.raw
    fuzzyFilter options "bba" = ["BBaB", "b-Ba"].map SelectOption.raw ∧
      fuzzyFilter (fuzzyFilter options "bba") "bba" = options := by
  intro options
  have hfilter : "bba" ≠ "" := by decide
  have hfirst : fuzzyFilter options "bba" = ["BBaB", "b-Ba"].map SelectOption.raw := by
    rw [fuzzyFilter_eq hfilter, ← isRanking_iff]
    exact ⟨[⟨1, by decide +kernel⟩, ⟨0, by decide +kernel⟩],
      ⟨by decide +kernel, by decide +kernel⟩, rfl⟩
  refine ⟨hfirst, ?_⟩
  rw [hfirst, fuzzyFilter_eq hfilter, ← isRanking_iff]
  exact ⟨[⟨1, by decide +kernel⟩, ⟨0, by decide +kernel⟩],
    ⟨by decide +kernel, by decide +kernel⟩, rfl⟩

end IssueDesk
