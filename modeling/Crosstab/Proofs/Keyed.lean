import Crosstab.Json.Basic
import Mathlib.Data.Finset.Card
import Mathlib.Data.List.Induction

/-!
Keyed lists and lists without repetitions. The value put last under a key is the one that is found,
and the keys stand in the order in which they were first put.
-/

namespace Crosstab.Keyed

variable {α β : Type} [BEq α] [LawfulBEq α]

/-- A last element counts if it has not appeared before. -/
theorem distinct_append_singleton (xs : List α) (x : α) :
    distinct (xs ++ [x]) = if x ∈ distinct xs then distinct xs else distinct xs ++ [x] := by
  simp [distinct, List.foldl_append]

/-- What is built from the left is what is left when later repetitions are erased. -/
theorem distinct_eq_eraseDups (xs : List α) : distinct xs = xs.eraseDups := by
  induction xs using List.reverseRecOn with
  | nil => rfl
  | append_singleton xs x ih =>
      rw [distinct_append_singleton, ih, List.eraseDups_append]
      by_cases hMem : x ∈ xs <;> simp [List.removeAll, hMem, List.eraseDups_cons]

theorem mem_distinct {xs : List α} {x : α} : x ∈ distinct xs ↔ x ∈ xs := by
  rw [distinct_eq_eraseDups, List.mem_eraseDups]

theorem nodup_distinct (xs : List α) : (distinct xs).Nodup := by
  induction xs using List.reverseRecOn with
  | nil => exact List.nodup_nil
  | append_singleton xs x ih =>
      rw [distinct_append_singleton]
      split
      next => exact ih
      next hNew => exact List.nodup_append'.mpr ⟨ih, List.nodup_singleton x, by simpa using hNew⟩

theorem distinct_of_nodup {xs : List α} (h : xs.Nodup) : distinct xs = xs := by
  induction xs using List.reverseRecOn with
  | nil => rfl
  | append_singleton xs x ih =>
      obtain ⟨hFront, -, hNew⟩ := List.nodup_append'.mp h
      rw [distinct_append_singleton, ih hFront, if_neg (by simpa using hNew)]

/-- As many are left as there are different elements. -/
theorem length_distinct [DecidableEq α] (xs : List α) :
    (distinct xs).length = xs.toFinset.card := by
  have hSame : (distinct xs).toFinset = xs.toFinset := by
    ext x
    rw [List.mem_toFinset, List.mem_toFinset, mem_distinct]
  rw [← hSame, List.toFinset_card_of_nodup (nodup_distinct xs)]

/-- A key that is new comes last, and every other one keeps its place. -/
theorem map_fst_put (key : α) (value : β) (done : List (α × β)) :
    (put key value done).map Prod.fst =
      if key ∈ done.map Prod.fst then done.map Prod.fst else done.map Prod.fst ++ [key] := by
  induction done with
  | nil => rfl
  | cons pair rest ih =>
      obtain ⟨first, old⟩ := pair
      by_cases hFirst : first = key
      · simp [put, hFirst]
      · have hOther : ¬key = first := fun h => hFirst h.symm
        simp only [put, beq_iff_eq, hFirst, if_false, List.map_cons, ih, List.mem_cons, hOther,
          false_or]
        split <;> rfl

/-- What is put under a key is found there, and nothing else changes. -/
theorem lookup_put (key other : α) (value : β) (done : List (α × β)) :
    (put key value done).lookup other = if other == key then some value else done.lookup other := by
  induction done with
  | nil =>
      rw [put, List.lookup_cons]
      cases other == key <;> rfl
  | cons pair rest ih =>
      obtain ⟨first, old⟩ := pair
      by_cases hFirst : first = key
      · subst hFirst
        simp only [put, BEq.rfl, if_true, List.lookup_cons]
        cases other == first <;> rfl
      · by_cases hOther : other = first
        · simp [put, hFirst, hOther]
        · have hSkip : (other == first) = false := beq_eq_false_iff_ne.mpr hOther
          simp [put, hFirst, List.lookup_cons, hSkip, ih]

omit [LawfulBEq α] in
theorem ofPairs_append_singleton (pairs : List (α × β)) (pair : α × β) :
    ofPairs (pairs ++ [pair]) = put pair.1 pair.2 (ofPairs pairs) := by
  simp [ofPairs, List.foldl_append]

/-- Under a new key, a value is put behind the others. -/
theorem put_of_notMem {key : α} {done : List (α × β)} (h : key ∉ done.map Prod.fst) (value : β) :
    put key value done = done ++ [(key, value)] := by
  induction done with
  | nil => rfl
  | cons pair rest ih =>
      obtain ⟨hFirst, hRest⟩ : key ≠ pair.1 ∧ key ∉ rest.map Prod.fst := by simpa using h
      have hOther : (pair.1 == key) = false := beq_eq_false_iff_ne.mpr hFirst.symm
      simp [put, hOther, ih hRest]

/-- Pairs whose keys differ are kept as they are. -/
theorem ofPairs_of_nodup {pairs : List (α × β)} (h : (pairs.map Prod.fst).Nodup) :
    ofPairs pairs = pairs := by
  induction pairs using List.reverseRecOn with
  | nil => rfl
  | append_singleton pairs pair ih =>
      rw [List.map_append, List.map_singleton] at h
      obtain ⟨hFront, -, hNew⟩ := List.nodup_append'.mp h
      rw [ofPairs_append_singleton, ih hFront, put_of_notMem (by simpa using hNew)]

omit [LawfulBEq α] in
theorem mem_put {key : α} {value : β} {done : List (α × β)} {pair : α × β}
    (h : pair ∈ put key value done) : pair = (key, value) ∨ pair ∈ done := by
  induction done with
  | nil => simpa [put] using h
  | cons first rest ih =>
      rw [put] at h
      split at h
      · rcases List.mem_cons.mp h with hNew | hRest
        · exact .inl hNew
        · exact .inr (List.mem_cons_of_mem _ hRest)
      · rcases List.mem_cons.mp h with hFirst | hRest
        · exact .inr (hFirst ▸ List.mem_cons_self)
        · exact (ih hRest).imp_right (List.mem_cons_of_mem _)

omit [LawfulBEq α] in
/-- No pair is made up. -/
theorem mem_of_mem_ofPairs {pairs : List (α × β)} {pair : α × β} (h : pair ∈ ofPairs pairs) :
    pair ∈ pairs := by
  induction pairs using List.reverseRecOn with
  | nil => exact h
  | append_singleton pairs last ih =>
      rw [ofPairs_append_singleton] at h
      rcases mem_put h with rfl | hRest
      · simp
      · exact List.mem_append_left _ (ih hRest)

/-- Each key stands once, where it first appeared. -/
theorem map_fst_ofPairs (pairs : List (α × β)) :
    (ofPairs pairs).map Prod.fst = distinct (pairs.map Prod.fst) := by
  induction pairs using List.reverseRecOn with
  | nil => rfl
  | append_singleton pairs pair ih =>
      rw [ofPairs_append_singleton, map_fst_put, ih, List.map_append, List.map_singleton,
        distinct_append_singleton]

/-- The last value of a key counts. -/
theorem lookup_ofPairs (pairs : List (α × β)) (key : α) :
    (ofPairs pairs).lookup key = pairs.reverse.lookup key := by
  induction pairs using List.reverseRecOn with
  | nil => rfl
  | append_singleton pairs pair ih =>
      calc (ofPairs (pairs ++ [pair])).lookup key
        _ = if key == pair.1 then some pair.2 else (ofPairs pairs).lookup key := by
            rw [ofPairs_append_singleton, lookup_put]
        _ = (pair :: pairs.reverse).lookup key := by
            rw [ih, List.lookup_cons]
            cases key == pair.1 <;> rfl
        _ = (pairs ++ [pair]).reverse.lookup key := by
            rw [List.reverse_append, List.reverse_singleton, List.singleton_append]

theorem lookup_eq_none {xs : List (α × β)} {key : α} (h : key ∉ xs.map Prod.fst) :
    xs.lookup key = none := by
  rw [List.lookup_eq_none_iff]
  intro pair hMem
  have hOther : pair.1 ≠ key := fun hEq => h (List.mem_map.mpr ⟨pair, hMem, hEq⟩)
  simpa using hOther.symm

/-- What is put under other keys afterwards does not matter. -/
theorem lookup_ofPairs_append {front back : List (α × β)} {key : α} (h : key ∉ back.map Prod.fst) :
    (ofPairs (front ++ back)).lookup key = front.reverse.lookup key := by
  have hBack : back.reverse.lookup key = none := by
    apply lookup_eq_none
    rwa [List.map_reverse, List.mem_reverse]
  rw [lookup_ofPairs, List.reverse_append, List.lookup_append, hBack, Option.none_or]

/-- Keys paired with their values under a function are looked up by applying it. -/
theorem lookup_map_pair (f : α → β) {keys : List α} {key : α} (h : key ∈ keys) :
    (keys.map fun key => (key, f key)).lookup key = some (f key) := by
  induction keys with
  | nil => simp at h
  | cons first keys ih =>
      rw [List.map_cons, List.lookup_cons]
      by_cases hFirst : key = first
      · rw [hFirst, BEq.rfl]
      · rw [beq_eq_false_iff_ne.mpr hFirst]
        exact ih ((List.mem_cons.mp h).resolve_left hFirst)

/-- Lists with the same keys, none of them twice, and with the same values under them are the
same. -/
theorem eq_of_lookup_eq {xs ys : List (α × β)} (hNodup : (xs.map Prod.fst).Nodup)
    (hKeys : ys.map Prod.fst = xs.map Prod.fst) (h : ∀ key, ys.lookup key = xs.lookup key) :
    ys = xs := by
  induction xs generalizing ys with
  | nil => exact List.map_eq_nil_iff.mp hKeys
  | cons x xs ih =>
      cases ys with
      | nil => cases hKeys
      | cons y ys =>
          obtain ⟨hFirst, hRest⟩ := List.cons.inj hKeys
          obtain ⟨hNew, hNodup⟩ := List.nodup_cons.mp hNodup
          have hValue := h x.1
          rw [← hFirst, List.lookup_cons_self, hFirst, List.lookup_cons_self, Option.some.injEq]
            at hValue
          rw [Prod.ext hFirst hValue, ih hNodup hRest fun key => ?_]
          -- The first key is none of the others, and every other key is not the first.
          by_cases hKey : key = x.1
          · subst hKey
            rw [lookup_eq_none hNew, lookup_eq_none (hRest ▸ hNew)]
          · have hSame := h key
            rwa [List.lookup_cons, List.lookup_cons, hFirst, beq_eq_false_iff_ne.mpr hKey] at hSame

omit [LawfulBEq α] in
/-- Pairs made from a list are looked up by finding what their key is made from. -/
theorem lookup_map {γ : Type} {k : γ → α} (f : γ → β) (xs : List γ) (key : α) :
    (xs.map fun x => (k x, f x)).lookup key = (xs.find? fun x => key == k x).map f := by
  induction xs with
  | nil => rfl
  | cons x xs ih =>
      rw [List.map_cons, List.lookup_cons, List.find?_cons, ih]
      cases key == k x <;> rfl

/-- Of the values put, only those count that are the last ones under their keys. -/
theorem ofPairs_append_congr {γ : Type} {front : List (α × β)} {k : γ → α} {f g : γ → β}
    {xs : List γ}
    (h : ∀ before x after, xs = before ++ x :: after → (∀ later ∈ after, k later ≠ k x) →
      f x = g x) :
    ofPairs (front ++ xs.map fun x => (k x, f x)) =
      ofPairs (front ++ xs.map fun x => (k x, g x)) := by
  refine eq_of_lookup_eq ?_ ?_ fun key => ?_
  · rw [map_fst_ofPairs]
    exact nodup_distinct _
  · simp only [map_fst_ofPairs, List.map_append, List.map_map, Function.comp_def]
  · rw [lookup_ofPairs, lookup_ofPairs, List.reverse_append, List.reverse_append,
      List.lookup_append,
      List.lookup_append, ← List.map_reverse, ← List.map_reverse, lookup_map, lookup_map]
    cases hFind : xs.reverse.find? fun x => key == k x with
    | none => rfl
    | some x =>
        obtain ⟨hKey, after, before, hSplit, hLast⟩ := List.find?_eq_some_iff_append.mp hFind
        obtain rfl := eq_of_beq hKey
        rw [Option.map_some, Option.map_some, h before.reverse x after.reverse]
        · simpa using congrArg List.reverse hSplit
        · intro later hMem hEq
          simpa [hEq] using hLast later (List.mem_reverse.mp hMem)

end Crosstab.Keyed
