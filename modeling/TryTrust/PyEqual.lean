import TryTrust.Compare
import TryTrust.JsonText

/-!
# Values that are equal to Python

* `distinctFields_iff`, `distinct_of_lookup`, `distinct_set`: dictionaries that have a key once;
* `Matches`, `Like`: dictionaries that are equal under each key; **`like_of_pyEq`**: equal ones are;
* `pyEqFields_of`: entries that are all found are equal;
* `pyEq_text`, `pyEq_arr`, `pyEq_obj`, `pyEqItems_texts`: what is equal to such a value.
-/

namespace TryTrust.PyEqual

open JsonText (Distinct DistinctItems DistinctFields)

/-! ## Keys that are there once -/

theorem distinct_of_lookup {d : Fields} (hd : DistinctFields d) {key : String} {v : Json}
    (h : List.lookup key d = some v) : Distinct v := by
  induction d with
  | nil => cases h
  | cons e d ih =>
    rw [List.lookup_cons] at h
    split at h
    · cases h
      exact hd.1
    · exact ih hd.2 h

theorem distinctFields_iff {d : Fields} : DistinctFields d ↔ ∀ e ∈ d, Distinct e.2 := by
  induction d with
  | nil => simp [DistinctFields]
  | cons e d ih =>
    rw [List.forall_mem_cons, ← ih]
    rfl

theorem distinct_map_set {d : Fields} (hd : DistinctFields d) (key : String) {v : Json}
    (hv : Distinct v) :
    DistinctFields (d.map fun e => if e.1 = key then (key, v) else e) := by
  induction d with
  | nil => trivial
  | cons e d ih =>
    rw [List.map_cons]
    split_ifs
    · exact ⟨hv, ih hd.2⟩
    · exact ⟨hd.1, ih hd.2⟩

theorem distinct_append {d : Fields} (hd : DistinctFields d) {key : String} {v : Json}
    (hv : Distinct v) : DistinctFields (d ++ [(key, v)]) := by
  induction d with
  | nil => exact ⟨hv, trivial⟩
  | cons e d ih => exact ⟨hd.1, ih hd.2⟩

theorem distinct_set {d : Fields} (hd : Distinct (.obj d)) (key : String) {v : Json}
    (hv : Distinct v) : Distinct (.obj (d.set key v)) := by
  obtain ⟨hkeys, hfields⟩ := hd
  unfold Fields.set
  split_ifs with hany
  · refine ⟨?_, distinct_map_set hfields key hv⟩
    have hmap : (d.map fun e => if e.1 = key then (key, v) else e).map Prod.fst =
        d.map Prod.fst := by
      rw [List.map_map]
      refine List.map_congr_left fun e _ => ?_
      by_cases he : e.1 = key <;> simp [he]
    rw [hmap]
    exact hkeys
  · refine ⟨?_, distinct_append hfields hv⟩
    have hnew : ∀ e ∈ d, e.1 ≠ key := fun e he heq =>
      hany (List.any_eq_true.2 ⟨e, he, decide_eq_true heq⟩)
    rw [List.map_append, List.nodup_append]
    refine ⟨hkeys, by simp, ?_⟩
    simpa using fun name v hmem => hnew (name, v) hmem

/-! ## Equal dictionaries -/

/-- Two entries that are both missing, or equal to Python. -/
def Matches : Option Json → Option Json → Prop
  | none, none => True
  | some w, some v => w.pyEq v = true
  | _, _ => False

/-- Dictionaries that are equal to Python, by what they have under each key. -/
def Like (d d' : Fields) : Prop := ∀ name, Matches (List.lookup name d) (List.lookup name d')

theorem Matches.left {w : Json} {x : Option Json} (h : Matches (some w) x) :
    ∃ v, x = some v ∧ w.pyEq v = true := by
  cases x with
  | none => exact h.elim
  | some v => exact ⟨v, rfl, h⟩

theorem Matches.right {v : Json} {x : Option Json} (h : Matches x (some v)) :
    ∃ w, x = some w ∧ w.pyEq v = true := by
  cases x with
  | none => exact h.elim
  | some w => exact ⟨w, rfl, h⟩

theorem Like.some {d d' : Fields} (h : Like d d') {name : String} {v : Json}
    (hv : List.lookup name d' = some v) : ∃ w, List.lookup name d = some w ∧ w.pyEq v = true := by
  have hname := h name
  rw [hv] at hname
  exact hname.right

theorem Like.none {d d' : Fields} (h : Like d d') {name : String}
    (hv : List.lookup name d' = none) : List.lookup name d = none := by
  have hname := h name
  rw [hv] at hname
  cases hd : List.lookup name d with
  | none => rfl
  | some w =>
    rw [hd] at hname
    exact hname.elim

theorem mem_of_lookup {d : Fields} {key : String} {v : Json} (h : List.lookup key d = some v) :
    (key, v) ∈ d := by
  obtain ⟨l, r, rfl, -⟩ := List.lookup_eq_some_iff.1 h
  simp

theorem lookup_of_mem {d : Fields} (hd : (d.map Prod.fst).Nodup) {e : String × Json}
    (he : e ∈ d) : List.lookup e.1 d = some e.2 := by
  induction d with
  | nil => cases he
  | cons x d ih =>
    rw [List.map_cons, List.nodup_cons] at hd
    rcases List.mem_cons.1 he with rfl | he
    · exact List.lookup_cons_self
    · have hne : e.1 ≠ x.1 := fun h => hd.1 (h ▸ List.mem_map_of_mem he)
      rw [List.lookup_cons, beq_false_of_ne hne]
      exact ih hd.2 he

theorem pyEqFields_mem {d d' : Fields} (h : Json.pyEqFields d d' = true) :
    ∀ e ∈ d, ∃ v, List.lookup e.1 d' = some v ∧ e.2.pyEq v = true := by
  induction d with
  | nil => simp
  | cons e d ih =>
    rw [Json.pyEqFields, Bool.and_eq_true] at h
    refine List.forall_mem_cons.2 ⟨?_, ih h.2⟩
    cases hv : List.lookup e.1 d' with
    | none =>
      rw [hv] at h
      cases h.1
    | some v =>
      rw [hv] at h
      exact ⟨v, rfl, h.1⟩

theorem pyEqFields_of {d d' : Fields}
    (h : ∀ e ∈ d, ∃ v, List.lookup e.1 d' = some v ∧ e.2.pyEq v = true) :
    Json.pyEqFields d d' = true := by
  induction d with
  | nil => rfl
  | cons e d ih =>
    obtain ⟨⟨v, hv, heq⟩, hrest⟩ := List.forall_mem_cons.1 h
    rw [Json.pyEqFields, hv, Bool.and_eq_true]
    exact ⟨heq, ih hrest⟩

/-- Dictionaries with a key once that are equal to Python have the same under each key. -/
theorem like_of_pyEq {d d' : Fields} (hd : (d.map Prod.fst).Nodup)
    (h : (Json.obj d).pyEq (.obj d') = true) : Like d d' := by
  rw [Json.pyEq, Bool.and_eq_true, decide_eq_true_iff] at h
  obtain ⟨hlen, hfields⟩ := h
  have hmem := pyEqFields_mem hfields
  have hsub : d.map Prod.fst ⊆ d'.map Prod.fst := by
    intro key hkey
    obtain ⟨e, he, rfl⟩ := List.mem_map.1 hkey
    obtain ⟨v, hv, -⟩ := hmem e he
    exact List.mem_map.2 ⟨_, mem_of_lookup hv, rfl⟩
  have hperm : (d.map Prod.fst).Perm (d'.map Prod.fst) :=
    (hd.subperm hsub).perm_of_length_le (by simp [hlen])
  intro name
  cases hname : List.lookup name d with
  | some w =>
    obtain ⟨v, hv, heq⟩ := hmem _ (mem_of_lookup hname)
    rw [hv]
    exact heq
  | none =>
    cases hname' : List.lookup name d' with
    | none => trivial
    | some v =>
      have hkey : name ∈ d.map Prod.fst :=
        hperm.mem_iff.2 (List.mem_map.2 ⟨_, mem_of_lookup hname', rfl⟩)
      obtain ⟨e, he, rfl⟩ := List.mem_map.1 hkey
      have hne := List.lookup_eq_none_iff.1 hname e he
      simp at hne

/-! ## Values equal to a value -/

theorem pyEq_text {w : Json} {s : String} (h : w.pyEq (.str s) = true) : w = .str s := by
  cases w with
  | str t => simpa [Json.pyEq] using h
  | null | bool b | num m scale | arr items | obj fields =>
    simp [Json.pyEq, Json.numbersAre, Json.number] at h

theorem pyEq_arr {w : Json} {items : List Json} (h : w.pyEq (.arr items) = true) :
    ∃ items', w = .arr items' ∧ Json.pyEqItems items' items = true := by
  cases w with
  | arr items' => exact ⟨items', rfl, by simpa [Json.pyEq] using h⟩
  | null | bool b | num m scale | str s | obj fields =>
    simp [Json.pyEq, Json.numbersAre, Json.number] at h

theorem pyEq_obj {w : Json} {d : Fields} (h : w.pyEq (.obj d) = true) : ∃ d', w = .obj d' := by
  cases w with
  | obj d' => exact ⟨d', rfl⟩
  | null | bool b | num m scale | str s | arr items =>
    simp [Json.pyEq, Json.numbersAre, Json.number] at h

theorem pyEqItems_texts {items : List Json} {texts : List String}
    (h : Json.pyEqItems items (texts.map Json.str) = true) : items = texts.map Json.str := by
  induction items generalizing texts with
  | nil => cases texts <;> simp_all [Json.pyEqItems]
  | cons w items ih =>
    cases texts with
    | nil => simp [Json.pyEqItems] at h
    | cons t texts =>
      simp only [List.map_cons, Json.pyEqItems, Bool.and_eq_true] at h
      rw [pyEq_text h.1, ih h.2, List.map_cons]

theorem pyEqItems_length {items items' : List Json} (h : Json.pyEqItems items items' = true) :
    items.length = items'.length := by
  induction items generalizing items' with
  | nil => cases items' <;> simp_all [Json.pyEqItems]
  | cons w items ih =>
    cases items' with
    | nil => simp [Json.pyEqItems] at h
    | cons v items' =>
      rw [Json.pyEqItems, Bool.and_eq_true] at h
      simp [ih h.2]

end TryTrust.PyEqual
