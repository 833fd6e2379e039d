import Crosstab.Document.Decode
import Crosstab.Proofs.Except
import Crosstab.Proofs.Keyed

/-!
Values that are written and read again. A value comes back as it was if no object in it repeats a
key, and no value that is read does.
-/

namespace Crosstab

/-- A value no object of which repeats a key. -/
inductive Json.Distinct : Json → Prop
  | null : Distinct .null
  | bool (b : Bool) : Distinct (.bool b)
  | number (n : Number) : Distinct (.number n)
  | text (s : String) : Distinct (.text s)
  | list {items : List Json} (h : ∀ item ∈ items, item.Distinct) : Distinct (.list items)
  | object {fields : List (String × Json)} (hKeys : (fields.map Prod.fst).Nodup)
      (h : ∀ field ∈ fields, field.2.Distinct) : Distinct (.object fields)

namespace Document

theorem ofJsonItems_eq_map (items : List Json) : ofJsonItems items = items.map ofJson := by
  induction items with
  | nil => rfl
  | cons item rest ih => rw [ofJsonItems, ih, List.map_cons]

mutual

/-- A value without repeated keys is read as it is. -/
theorem toJson?_ofJson : ∀ value : Json, value.Distinct → (ofJson value).toJson? = some value
  | .null, _ => rfl
  | .bool _, _ => rfl
  | .number _, _ => rfl
  | .text _, _ => rfl
  | .list items, .list h => by
    rw [ofJson, toJson?, toJsonItems?_ofJsonItems items h, Option.map_some]
  | .object fields, .object hKeys h => by
      rw [ofJson, toJson?, toJsonFields?_ofJsonFields fields h, Option.map_some,
        Keyed.ofPairs_of_nodup hKeys]

theorem toJsonItems?_ofJsonItems : ∀ items : List Json, (∀ item ∈ items, item.Distinct) →
    toJsonItems? (ofJsonItems items) = some items
  | [], _ => rfl
  | item :: rest, h => by
      obtain ⟨hItem, hRest⟩ := List.forall_mem_cons.mp h
      rw [ofJsonItems, toJsonItems?, toJson?_ofJson item hItem, toJsonItems?_ofJsonItems rest hRest]

theorem toJsonFields?_ofJsonFields : ∀ fields : List (String × Json),
    (∀ field ∈ fields, field.2.Distinct) → toJsonFields? (ofJsonFields fields) = some fields
  | [], _ => rfl
  | (key, value) :: rest, h => by
      obtain ⟨hValue, hRest⟩ := List.forall_mem_cons.mp h
      rw [ofJsonFields, toJsonFields?, toJson?_ofJson value hValue,
        toJsonFields?_ofJsonFields rest hRest]

end

mutual

/-- What is read repeats no key. -/
theorem distinct_of_toJson? :
    ∀ (d : Document) {value : Json}, d.toJson? = some value → value.Distinct
  | .null, _, h => by
      cases h
      exact .null
  | .bool _, _, h => by
      cases h
      exact .bool _
  | .number _, _, h => by
      cases h
      exact .number _
  | .text _, _, h => by
      cases h
      exact .text _
  | .list items, _, h => by
      obtain ⟨values, hValues, rfl⟩ := Option.map_eq_some_iff.mp h
      exact .list (distinct_of_toJsonItems? items hValues)
  | .record fields, _, h => by
      obtain ⟨pairs, hPairs, rfl⟩ := Option.map_eq_some_iff.mp h
      refine .object ?_ fun field hMem => ?_
      · rw [Keyed.map_fst_ofPairs]
        exact Keyed.nodup_distinct _
      · exact distinct_of_toJsonFields? fields hPairs field (Keyed.mem_of_mem_ofPairs hMem)
  | .invalid, _, h => nomatch h

theorem distinct_of_toJsonItems? : ∀ (items : List Document) {values : List Json},
    toJsonItems? items = some values → ∀ value ∈ values, value.Distinct
  | [], _, h => by
      cases h
      exact nofun
  | item :: rest, _, h => by
      rw [toJsonItems?] at h
      split at h
      next first others hFirst hOthers =>
        cases h
        exact List.forall_mem_cons.mpr
          ⟨distinct_of_toJson? item hFirst, distinct_of_toJsonItems? rest hOthers⟩
      next => cases h

theorem distinct_of_toJsonFields? :
    ∀ (fields : List (String × Document)) {pairs : List (String × Json)},
    toJsonFields? fields = some pairs → ∀ pair ∈ pairs, pair.2.Distinct
  | [], _, h => by
      cases h
      exact nofun
  | (key, item) :: rest, _, h => by
      rw [toJsonFields?] at h
      split at h
      next first others hFirst hOthers =>
        cases h
        exact List.forall_mem_cons.mpr
          ⟨distinct_of_toJson? item hFirst, distinct_of_toJsonFields? rest hOthers⟩
      next => cases h

end

/-- Only null is read as null. -/
theorem toJson?_eq_null {d : Document} (h : d.toJson? = some .null) : d = .null := by
  cases d with
  | null => rfl
  | list => simp [toJson?] at h
  | record => simp [toJson?] at h
  | _ => cases h

/-- A field that may be null is read as it is unless it is. -/
theorem nullable?_ofJson {fields : List (String × Document)} {name : String} {value : Json}
    (hField : fields.lookup name = some (ofJson value)) (h : value.Distinct) :
    nullable? fields name toJson? = some ((some value).filter (!·.isNull)) := by
  have hValue := toJson?_ofJson value h
  rw [nullable?, hField]
  cases value with
  | null => rfl
  | _ => exact congrArg (Option.map some) hValue

/-- A word is read back from the integer that it is written as. -/
theorem word64?_ofJson (n : UInt64) : word64? (ofJson (.int n.toNat)) = some n := by
  have hRange : n.toNat < 2 ^ 64 := n.toNat_lt
  have hWord : word? 64 (ofJson (.int n.toNat)) = some n.toNat := by
    rw [Json.int, ofJson, word?]
    simp only [Int.toNat_natCast, Option.ite_none_right_eq_some, and_true, Bool.and_eq_true,
      decide_eq_true_eq]
    exact ⟨Int.natCast_nonneg _, by exact_mod_cast hRange⟩
  rw [word64?, hWord, Option.map_some, UInt64.ofNat_toNat]

variable {α β : Type}

/-- A list is read back element by element. -/
theorem list?_ofJson {read : Document → Option β} {write : α → Json} {f : α → β} {xs : List α}
    (h : ∀ x ∈ xs, read (ofJson (write x)) = some (f x)) :
    list? read (ofJson (.list (xs.map write))) = some (xs.map f) := by
  rw [ofJson, ofJsonItems_eq_map, list?]
  induction xs with
  | nil => rfl
  | cons x rest ih =>
      obtain ⟨hFirst, hRest⟩ := List.forall_mem_cons.mp h
      rw [List.map_cons, List.map_cons, List.mapM_cons, hFirst, ih hRest]
      rfl

/-- What stands in a list that is read has been read. -/
theorem read_of_mem {read : Document → Option α} {fields : List (String × Document)} {name : String}
    {xs : List α} (h : optional? fields name [] (list? read) = some xs) {x : α} (hMem : x ∈ xs) :
    ∃ d, read d = some x := by
  rw [optional?] at h
  cases hField : fields.lookup name with
  | none =>
      rw [hField] at h
      cases h
      cases hMem
  | some d =>
      rw [hField] at h
      cases d with
      | list items =>
          obtain ⟨d, -, hRead⟩ := exists_of_forall₂_right (mapM_eq_some.mp h) hMem
          exact ⟨d, hRead⟩
      | _ => cases h

/-- A value that is read is not null and repeats no key. -/
theorem distinct_of_nullable? {fields : List (String × Document)} {name : String} {value : Json}
    (h : nullable? fields name toJson? = some (some value)) : value ≠ .null ∧ value.Distinct := by
  rw [nullable?] at h
  split at h
  next => cases h
  next => cases h
  next d hNull hField =>
    obtain ⟨_, hRead, hEq⟩ := Option.map_eq_some_iff.mp h
    cases hEq
    exact ⟨fun hValue => hNull (toJson?_eq_null (hValue ▸ hRead)), distinct_of_toJson? d hRead⟩

end Document

end Crosstab
