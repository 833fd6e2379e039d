import Crosstab.Proofs.Table.Slot
import Mathlib.Algebra.Order.BigOperators.Group.List
import Mathlib.Algebra.Order.Ring.Nat

/-!
Headers of a pivot. Headers that would read alike are told apart by numbers. The search for a free
form of a header ends because its forms are all different, so that one of them is free among any
that are one more than the headers taken.
-/

namespace Crosstab

namespace Pivot

theorem numbered_of_pos {n : Nat} (h : 0 < n) (header : String) :
    numbered header n = header ++ " (" ++ toString (n + 1) ++ ")" := by
  rw [numbered, if_neg (Nat.pos_iff_ne_zero.mp h)]

/-- Retries never come back to a header that was tried. -/
theorem numbered_injective (header : String) : Function.Injective (numbered header) := by
  -- A number makes a header longer, and different numbers have different digits.
  have hLonger {n : Nat} (hPos : 0 < n) : numbered header n ≠ numbered header 0 := by
    intro hEq
    have hList := congrArg String.toList hEq
    rw [numbered_of_pos hPos] at hList
    simp [numbered] at hList
  intro m n hEq
  rcases Nat.eq_zero_or_pos m with rfl | hm <;> rcases Nat.eq_zero_or_pos n with rfl | hn
  · rfl
  · exact absurd hEq.symm (hLonger hn)
  · exact absurd hEq (hLonger hm)
  · rw [numbered_of_pos hm, numbered_of_pos hn] at hEq
    have hList := congrArg String.toList hEq
    simp only [String.toList_append] at hList
    have hDigits := List.append_cancel_left (List.append_cancel_right hList)
    have hNumber := congrArg (fun digits => Nat.ofDigitChars 10 digits 0) hDigits
    simpa [Nat.toString_eq_ofList_toDigits] using hNumber

/-- The first free form of a header is found after no more retries than there are headers taken. -/
theorem freshHeader_eq (taken : List String) (header : String) : ∃ n ≤ taken.length,
    freshHeader taken header = numbered header n ∧ numbered header n ∉ taken ∧
      ∀ m < n, numbered header m ∈ taken := by
  unfold freshHeader
  cases hFound : (List.range (taken.length + 1)).find? fun n =>
    !taken.contains (numbered header n) with
  | some n =>
      obtain ⟨hFree, hRange, hEarlier⟩ := List.find?_range_eq_some.mp hFound
      refine ⟨n, Nat.le_of_lt_succ (List.mem_range.mp hRange), rfl, by simpa using hFree, ?_⟩
      intro m hm
      simpa using hEarlier m hm
  | none =>
      have hTaken : (List.range (taken.length + 1)).map (numbered header) ⊆ taken := by
        intro form hForm
        obtain ⟨n, hRange, rfl⟩ := List.mem_map.mp hForm
        simpa using List.find?_eq_none.mp hFound n hRange
      have hForms : ((List.range (taken.length + 1)).map (numbered header)).Nodup :=
        List.nodup_range.map (numbered_injective header)
      have hLength := hForms.length_le_of_subset hTaken
      rw [List.length_map, List.length_range] at hLength
      omega

/-- No header is lost. -/
theorem length_distinctHeaders (taken headers : List String) :
    (distinctHeaders taken headers).length = headers.length := by
  induction headers generalizing taken with
  | nil => rfl
  | cons header headers ih => rw [distinctHeaders, List.length_cons, List.length_cons, ih]

/-- Every header becomes the first of its forms that is neither reserved nor handed out before. -/
theorem getElem?_distinctHeaders (taken : List String) {headers : List String} {i : Nat}
    {header : String} (h : headers[i]? = some header) : ∃ n ≤ taken.length + i,
      (distinctHeaders taken headers)[i]? = some (numbered header n) ∧
      numbered header n ∉ taken ++ (distinctHeaders taken headers).take i ∧
      ∀ m < n, numbered header m ∈ taken ++ (distinctHeaders taken headers).take i := by
  induction headers generalizing taken i with
  | nil => simp at h
  | cons first headers ih =>
      cases i with
      | zero =>
          obtain rfl : first = header := by simpa using h
          obtain ⟨n, hBound, hFresh, hFree, hEarlier⟩ := freshHeader_eq taken first
          refine ⟨n, hBound, ?_, ?_, ?_⟩
          · rw [distinctHeaders, List.getElem?_cons_zero, hFresh]
          · rwa [List.take_zero, List.append_nil]
          · rwa [List.take_zero, List.append_nil]
      | succ i =>
          rw [List.getElem?_cons_succ] at h
          obtain ⟨n, hBound, hAt, hFree, hEarlier⟩ := ih (freshHeader taken first :: taken) h
          have hSame (form : String) :
              form ∈ taken ++ (distinctHeaders taken (first :: headers)).take (i + 1) ↔
                form ∈ freshHeader taken first :: taken ++
                  (distinctHeaders (freshHeader taken first :: taken) headers).take i := by
            simp only [distinctHeaders, List.take_succ_cons, List.mem_append, List.mem_cons]
            rw [or_left_comm, or_assoc]
          have hWithin : n ≤ taken.length + (i + 1) := by
            rw [List.length_cons] at hBound
            omega
          exact ⟨n, hWithin, hAt, fun hMem => hFree ((hSame _).mp hMem), fun m hm =>
            (hSame _).mpr (hEarlier m hm)⟩

/-- Headers are distinct in the end, and none of them was taken. -/
theorem nodup_distinctHeaders (taken headers : List String) :
    (distinctHeaders taken headers).Nodup ∧ ∀ header ∈ distinctHeaders taken headers,
      header ∉ taken := by
  induction headers generalizing taken with
  | nil => simp [distinctHeaders]
  | cons first headers ih =>
      obtain ⟨n, -, hFresh, hFree, -⟩ := freshHeader_eq taken first
      obtain ⟨hNodup, hNew⟩ := ih (freshHeader taken first :: taken)
      rw [distinctHeaders]
      constructor
      · apply List.nodup_cons.mpr
        exact ⟨fun hMem => hNew _ hMem List.mem_cons_self, hNodup⟩
      · intro header hMem hTaken
        rcases List.mem_cons.mp hMem with rfl | hRest
        · exact (hFresh ▸ hFree) hTaken
        · exact hNew header hRest (List.mem_cons_of_mem _ hTaken)

/-- Headers that are different from each other and from those taken stay as they are. -/
theorem distinctHeaders_of_nodup {taken headers : List String} (h : headers.Nodup)
    (hNew : ∀ header ∈ headers, header ∉ taken) : distinctHeaders taken headers = headers := by
  induction headers generalizing taken with
  | nil => rfl
  | cons first headers ih =>
      obtain ⟨hFirst, hRest⟩ := List.nodup_cons.mp h
      obtain ⟨hFree, hOthers⟩ := List.forall_mem_cons.mp hNew
      obtain ⟨n, -, hFresh, -, hEarlier⟩ := freshHeader_eq taken first
      have hZero : n = 0 := by
        by_contra hRetried
        exact hFree (hEarlier 0 (Nat.pos_of_ne_zero hRetried))
      have hKeeps : freshHeader taken first = first := by
        rw [hFresh, hZero]
        rfl
      rw [distinctHeaders, hKeeps]
      congr 1
      apply ih hRest
      intro header hMem hTaken
      rcases List.mem_cons.mp hTaken with rfl | hOld
      · exact hFirst hMem
      · exact hOthers header hMem hOld

end Pivot

open Pivot

variable {rows : List Row} {layout : PivotLayout}

/-- A pivot overflows just if a row has no combination. -/
theorem overflowed_pivot :
    (pivot rows layout).overflowed ↔ ∃ row ∈ rows, layout.slot rows row = none := by
  have hPlace (row : Row) :
      (position? (layout.axes rows) (axisTexts layout.columnKeys row) 0).isNone ↔
      layout.slot rows row = none := by
    rw [PivotLayout.position?_axisTexts, Option.isNone_iff_eq_none]
    cases hSlot : layout.slot rows row with
    | none => simp
    | some texts => simp [(PivotLayout.slot_eq_some.mp hSlot).2]
  simp only [pivot, PivotLayout.map_keptTexts, List.any_map, List.any_eq_true,
    Function.comp_apply, hPlace]

/-- That is so just if an axis has more texts than it keeps. -/
theorem overflowed_iff_card : (pivot rows layout).overflowed ↔ ∃ key ∈ layout.columnKeys,
    max layout.cap 1 < (rows.map fun row => axisText (row.lookup key)).toFinset.card := by
  simp only [overflowed_pivot, PivotLayout.slot_eq_none, ← PivotLayout.exists_notMem_kept]
  constructor
  · rintro ⟨row, hRow, key, hKey, hNot⟩
    exact ⟨key, hKey, row, hRow, hNot⟩
  · rintro ⟨key, hKey, row, hRow, hNot⟩
    exact ⟨row, hRow, key, hKey, hNot⟩

/-- Fewer rows than a cap allows texts do not show too many of them. -/
theorem not_overflowed_of_length_le (h : rows.length ≤ layout.cap) :
    ¬(pivot rows layout).overflowed := by
  rw [overflowed_iff_card]
  rintro ⟨key, -, hMany⟩
  have hFew := List.toFinset_card_le (rows.map fun row => axisText (row.lookup key))
  rw [List.length_map] at hFew
  omega

/-- The combinations have headers that avoid the one for everything else, which comes last. -/
theorem headers_pivot : (pivot rows layout).headers =
    distinctHeaders (if (pivot rows layout).overflowed then [otherHeader] else [])
      (combinations (layout.axes rows)) ++
        if (pivot rows layout).overflowed then [otherHeader] else [] := by
  simp only [pivot, PivotLayout.map_keptTexts]
  rw [List.map_append, List.map_map]
  congr 1
  · exact List.zipIdx_map_fst 0 _
  · split <;> rfl

/-- The headers of a pivot are bounded and distinct, they say whether any text was left out, and
each reads as its combination does unless that would repeat a header. -/
structure PivotTable.HeadedBy (table : PivotTable) (rows : List Row) (layout : PivotLayout) :
    Prop where
  /-- Something is left out just if an axis shows more texts than it may keep. -/
  overflowed : table.overflowed ↔ ∃ key ∈ layout.columnKeys,
    max layout.cap 1 < (rows.map fun row => axisText (row.lookup key)).toFinset.card
  /-- Every combination has a header, and all that is left out has one more. -/
  count : (combinations (layout.axes rows)).length = (layout.columnKeys.map fun key =>
      min (rows.map fun row => axisText (row.lookup key)).toFinset.card (max layout.cap 1)).prod ∧
    table.headers.length =
      (combinations (layout.axes rows)).length + if table.overflowed then 1 else 0
  bounded : (combinations (layout.axes rows)).length ≤ max layout.cap 1 ^ layout.columnKeys.length
  nodup : table.headers.Nodup
  other : table.overflowed → ∃ named, table.headers = named ++ [otherHeader] ∧ otherHeader ∉ named
  named : ∀ i text, (combinations (layout.axes rows))[i]? = some text → ∃ header,
    table.headers[i]? = some header ∧
    (header = text ∨ ∃ n ≥ 2, header = text ++ " (" ++ toString n ++ ")") ∧
    (text ∉ table.headers.take i → (table.overflowed → text ≠ otherHeader) → header = text)

/-- The number of combinations, from the different texts of each axis. -/
theorem length_combinations_axes : (combinations (layout.axes rows)).length =
    (layout.columnKeys.map fun key => min (rows.map fun row =>
      axisText (row.lookup key)).toFinset.card (max layout.cap 1)).prod := by
  rw [length_combinations, PivotLayout.axes, List.map_map]
  congr 1
  exact List.map_congr_left fun key _ => layout.length_kept rows key

/-- There is one header for each combination, and one more for other rows if there are any. -/
theorem length_headers_pivot : (pivot rows layout).headers.length =
    (combinations (layout.axes rows)).length + if (pivot rows layout).overflowed then 1 else 0 := by
  rw [headers_pivot, List.length_append, length_distinctHeaders]
  split <;> rfl

/-- Whatever is left out has the last header to itself. -/
theorem headers_of_overflowed (h : (pivot rows layout).overflowed) :
    (pivot rows layout).headers =
      distinctHeaders [otherHeader] (combinations (layout.axes rows)) ++ [otherHeader] ∧
    otherHeader ∉ distinctHeaders [otherHeader] (combinations (layout.axes rows)) := by
  refine ⟨by rw [headers_pivot, if_pos h], ?_⟩
  intro hMem
  exact (nodup_distinctHeaders [otherHeader] _).2 _ hMem List.mem_cons_self

/-- The headers of a pivot are distinct. -/
theorem nodup_headers_pivot : (pivot rows layout).headers.Nodup := by
  by_cases hOverflowed : (pivot rows layout).overflowed
  · obtain ⟨hHeaders, hOther⟩ := @headers_of_overflowed rows layout hOverflowed
    rw [hHeaders]
    refine List.nodup_append'.mpr ⟨(nodup_distinctHeaders _ _).1, List.nodup_singleton _, ?_⟩
    exact List.disjoint_singleton.mpr hOther
  · rw [headers_pivot, if_neg hOverflowed, List.append_nil]
    exact (nodup_distinctHeaders _ _).1

/-- A combination has the header at its place, which reads as the combination does or has a
number. -/
theorem exists_header {i : Nat} {text : String}
    (h : (combinations (layout.axes rows))[i]? = some text) : ∃ header,
      (pivot rows layout).headers[i]? = some header ∧
      (header = text ∨ ∃ n ≥ 2, header = text ++ " (" ++ toString n ++ ")") ∧
      (text ∉ (pivot rows layout).headers.take i →
        ((pivot rows layout).overflowed → text ≠ otherHeader) → header = text) := by
  obtain ⟨n, -, hHeader, -, hEarlier⟩ := getElem?_distinctHeaders
    (if (pivot rows layout).overflowed then [otherHeader] else []) h
  have hWithin := (List.getElem?_eq_some_iff.mp hHeader).1
  have hTake : (pivot rows layout).headers.take i = (distinctHeaders
      (if (pivot rows layout).overflowed then [otherHeader] else [])
        (combinations (layout.axes rows))).take i := by
    rw [headers_pivot, List.take_append_of_le_length (Nat.le_of_lt hWithin)]
  refine ⟨numbered text n, ?_, ?_, fun hNew hOther => ?_⟩
  · rw [headers_pivot, List.getElem?_append_left hWithin, hHeader]
  · rcases Nat.eq_zero_or_pos n with rfl | hPos
    · exact .inl rfl
    · exact .inr ⟨n + 1, by omega, numbered_of_pos hPos text⟩
  · rcases Nat.eq_zero_or_pos n with rfl | hPos
    · rfl
    · -- A form with a number is taken only after the plain one was found taken.
      rcases List.mem_append.mp (hEarlier 0 hPos) with hReserved | hSeen
      · split at hReserved
        next hOverflowed => exact absurd (List.mem_singleton.mp hReserved) (hOther hOverflowed)
        next => cases hReserved
      · exact absurd (hTake ▸ hSeen) hNew

/-- The headers of exact arithmetic are bounded and distinct and tell whether any text was left
out. -/
theorem headedBy_exact (rows : List Row) (layout : PivotLayout) :
    (pivot rows layout).HeadedBy rows layout := by
  constructor
  case overflowed => exact overflowed_iff_card
  case count => exact ⟨length_combinations_axes, length_headers_pivot⟩
  case bounded =>
    calc (combinations (layout.axes rows)).length
      _ = (layout.columnKeys.map fun key => min (rows.map fun row =>
            axisText (row.lookup key)).toFinset.card (max layout.cap 1)).prod :=
          length_combinations_axes
      _ ≤ max layout.cap 1 ^ (layout.columnKeys.map fun key => min (rows.map fun row =>
            axisText (row.lookup key)).toFinset.card (max layout.cap 1)).length := by
          apply List.prod_le_pow_card
          intro kept hKept
          obtain ⟨key, -, rfl⟩ := List.mem_map.mp hKept
          exact Nat.min_le_right _ _
      _ = max layout.cap 1 ^ layout.columnKeys.length := by rw [List.length_map]
  case nodup => exact nodup_headers_pivot
  case other => exact fun hOverflowed => ⟨_, headers_of_overflowed hOverflowed⟩
  case named => exact fun i text hText => exists_header hText

/-- Whether headers are those of a pivot depends on the headers and the other rows only. -/
theorem PivotTable.HeadedBy.congr {table other : PivotTable} (h : table.HeadedBy rows layout)
    (hHeaders : other.headers = table.headers) (hOverflowed : other.overflowed = table.overflowed) :
    other.HeadedBy rows layout := by
  obtain ⟨headers, others, overflowed⟩ := other
  subst hHeaders hOverflowed
  exact ⟨h.overflowed, h.count, h.bounded, h.nodup, h.other, h.named⟩

end Crosstab
