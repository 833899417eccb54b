import Mathlib.Tactic

/-!
# Self-delimiting parsers and segmented input

A parser reads one value at the front of a string and says how many symbols it took. It is
self-delimiting when it takes at least one symbol, no more than there are, and when its answer
depends on those symbols only. `parseAll` applies it again and again.

A string arrives in segments. `fillTo` appends segments to a buffer until it is long enough; it
fails exactly when the whole string is too short (`fillTo_eq_none_iff`), and it extends the buffer
without losing or reordering a symbol (`fillTo_eq_some`).

Fields that are written one after the other can be read back if each field but the last holds no
separator: `append_separator_inj` reads one field; `separator_after` finds where a given separator
can stand.
-/

namespace Iicp.Stream

variable {α β : Type} {data : List α}

/-! ### Parsers -/

/-- A parser whose values say themselves where they end. -/
structure SelfDelimiting (parse : List α → Option (β × ℕ)) : Prop where
  pos : ∀ {data value taken}, parse data = some (value, taken) → 0 < taken
  le_length : ∀ {data value taken}, parse data = some (value, taken) → taken ≤ data.length
  of_take_eq : ∀ {data other value taken}, parse data = some (value, taken) →
    other.take taken = data.take taken → parse other = some (value, taken)

namespace SelfDelimiting

variable {parse : List α → Option (β × ℕ)}

lemma append (hparse : SelfDelimiting parse) {result : β × ℕ} (h : parse data = some result)
    (rest : List α) : parse (data ++ rest) = some result := by
  apply hparse.of_take_eq h
  exact List.take_append_of_le_length (hparse.le_length h)

/-- No shorter start of what a parser took is itself a value. -/
lemma take_eq_none (hparse : SelfDelimiting parse) {value : β} {taken size : ℕ}
    (h : parse data = some (value, taken)) (hsize : size < taken) :
    parse (data.take size) = none := by
  by_contra hsome
  obtain ⟨⟨other, less⟩, hother⟩ := Option.ne_none_iff_exists'.mp hsome
  have hless : less ≤ size := by
    have hle := hparse.le_length hother
    rw [List.length_take] at hle
    exact le_trans hle (min_le_left _ _)
  have hwhole : parse data = some (other, less) := by
    apply hparse.of_take_eq hother
    rw [List.take_take, min_eq_left hless]
  have htaken : taken = less := (Prod.mk.inj (Option.some.inj (h.symm.trans hwhole))).2
  omega

end SelfDelimiting

/-- The values at the front of a string, up to the first position at which the parser has none. -/
def parseAll (parse : List α → Option (β × ℕ)) (data : List α) : List β :=
  match parse data with
  | none => []
  | some (value, taken) =>
    if _h : 0 < taken ∧ taken ≤ data.length then value :: parseAll parse (data.drop taken)
    else [value]
termination_by data.length
decreasing_by
  rw [List.length_drop]
  omega

lemma parseAll_of_none {parse : List α → Option (β × ℕ)} (h : parse data = none) :
    parseAll parse data = [] := by
  rw [parseAll, h]

lemma parseAll_of_some {parse : List α → Option (β × ℕ)} (hparse : SelfDelimiting parse)
    {value : β} {taken : ℕ} (h : parse data = some (value, taken)) :
    parseAll parse data = value :: parseAll parse (data.drop taken) := by
  conv_lhs => rw [parseAll, h]
  exact dif_pos ⟨hparse.pos h, hparse.le_length h⟩

/-! ### Segments -/

/-- What one successful read delivers: at least one symbol, at most as many as the reader has
room for. -/
structure Segment (α : Type) (room : ℕ) where
  items : List α
  nonempty : items ≠ []
  fits : items.length ≤ room

variable {room : ℕ}

/-- The string that a list of segments carries. -/
def joined (segments : List (Segment α room)) : List α := segments.flatMap Segment.items

@[simp] lemma joined_nil : joined ([] : List (Segment α room)) = [] := rfl

@[simp] lemma joined_cons (segment : Segment α room) (rest : List (Segment α room)) :
    joined (segment :: rest) = segment.items ++ joined rest := rfl

/-- Appends segments to a buffer until it holds the needed number of symbols; none when the
segments end before. -/
def fillTo (needed : ℕ) (buffer : List α) :
    List (Segment α room) → Option (List α × List (Segment α room))
  | [] => if needed ≤ buffer.length then some (buffer, []) else none
  | segment :: rest =>
    if needed ≤ buffer.length then some (buffer, segment :: rest)
    else fillTo needed (buffer ++ segment.items) rest

lemma fillTo_of_le {needed : ℕ} {buffer : List α} (h : needed ≤ buffer.length)
    (segments : List (Segment α room)) : fillTo needed buffer segments = some (buffer, segments) := by
  cases segments <;> exact if_pos h

lemma fillTo_eq_none_iff (needed : ℕ) (buffer : List α) (segments : List (Segment α room)) :
    fillTo needed buffer segments = none ↔ (buffer ++ joined segments).length < needed := by
  induction segments generalizing buffer with
  | nil => simp [fillTo]
  | cons segment rest ih =>
    by_cases h : needed ≤ buffer.length
    · rw [fillTo_of_le h, List.length_append]
      simp only [reduceCtorEq, false_iff, not_lt]
      omega
    · rw [fillTo, if_neg h, ih, joined_cons, List.append_assoc]

lemma fillTo_eq_some {needed : ℕ} {buffer filled : List α}
    {segments left : List (Segment α room)} (h : fillTo needed buffer segments = some (filled, left)) :
    needed ≤ filled.length ∧ buffer <+: filled ∧
      filled ++ joined left = buffer ++ joined segments := by
  fun_induction fillTo needed buffer segments with
  | case1 _ hlength | case3 _ _ _ hlength =>
    obtain ⟨rfl, rfl⟩ := Prod.mk.inj (Option.some.inj h)
    exact ⟨hlength, List.prefix_refl _, rfl⟩
  | case2 => nomatch h
  | case4 _ segment rest _ ih =>
    obtain ⟨hfilled, hextends, hjoined⟩ := ih h
    refine ⟨hfilled, (List.prefix_append _ _).trans hextends, ?_⟩
    rw [hjoined, joined_cons, List.append_assoc]

/-! ### Fields before a separator -/

variable {separator : α}

/-- Assumes: a field without a separator. A separator in a text that begins with the field stands
after the field. -/
lemma separator_after {field rest before after : List α} (hfield : separator ∉ field)
    (heq : field ++ rest = before ++ separator :: after) :
    ∃ between, before = field ++ between ∧ rest = between ++ separator :: after := by
  rcases List.append_eq_append_iff.mp heq with ⟨between, hbefore, hrest⟩ | ⟨between, hin, hrest⟩
  · exact ⟨between, hbefore, hrest⟩
  · cases between with
    | nil =>
      rw [List.append_nil] at hin
      exact ⟨[], by rw [List.append_nil, hin], hrest.symm⟩
    | cons =>
      obtain ⟨rfl, _⟩ := List.cons.inj hrest
      rw [hin] at hfield
      exact absurd (List.mem_append_right _ List.mem_cons_self) hfield

/-- Assumes: two fields without a separator. They are the same if they stand before the first
separator of the same text. -/
lemma append_separator_inj {field other rest last : List α} (hfield : separator ∉ field)
    (hother : separator ∉ other) (heq : field ++ separator :: rest = other ++ separator :: last) :
    field = other ∧ rest = last := by
  obtain ⟨between, rfl, hrest⟩ := separator_after hfield heq
  cases between with
  | nil =>
    rw [List.append_nil]
    exact ⟨rfl, (List.cons.inj hrest).2⟩
  | cons =>
    obtain ⟨rfl, _⟩ := List.cons.inj hrest
    exact absurd (List.mem_append_right _ List.mem_cons_self) hother

end Iicp.Stream
