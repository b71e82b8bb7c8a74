import TryTrust.CanonicalJson

/-!
# Values alike up to their leaves

* `Json.Alike`: two values of one shape, with a relation between their leaves; `alike_mono`,
  `alike_both`;
* `Json.mapLeaves`: a value with its leaves replaced; **`mapLeaves_eq_iff`**: two of them are equal
  when their leaves are; **`sorted_mapLeaves`**: sorting does not touch leaves.
-/

namespace TryTrust

namespace Json

/-- The value is no list and no dictionary. -/
def isLeaf : Json → Bool
  | .arr _ => false
  | .obj _ => false
  | _ => true

mutual

/-- Two values of one shape, whose leaves are related. -/
def Alike (R : Json → Json → Prop) : Json → Json → Prop
  | .arr items, .arr items' => AlikeItems R items items'
  | .obj fields, .obj fields' => AlikeFields R fields fields'
  | .arr _, _ => False
  | .obj _, _ => False
  | v, w => w.isLeaf = true ∧ R v w

/-- The items of two lists are alike. -/
def AlikeItems (R : Json → Json → Prop) : List Json → List Json → Prop
  | [], [] => True
  | v :: vs, w :: ws => Alike R v w ∧ AlikeItems R vs ws
  | _, _ => False

/-- The entries of two dictionaries are alike. -/
def AlikeFields (R : Json → Json → Prop) :
    List (String × Json) → List (String × Json) → Prop
  | [], [] => True
  | (key, v) :: vs, (key', w) :: ws => key = key' ∧ Alike R v w ∧ AlikeFields R vs ws
  | _, _ => False

end

mutual

/-- A value with its leaves replaced. -/
def mapLeaves (g : Json → Json) : Json → Json
  | .arr items => .arr (mapItems g items)
  | .obj fields => .obj (mapFields g fields)
  | v => g v

/-- The items of a list with their leaves replaced. -/
def mapItems (g : Json → Json) : List Json → List Json
  | [] => []
  | item :: items => mapLeaves g item :: mapItems g items

/-- The entries of a dictionary with their leaves replaced. -/
def mapFields (g : Json → Json) : List (String × Json) → List (String × Json)
  | [] => []
  | (key, value) :: fields => (key, mapLeaves g value) :: mapFields g fields

end

section Alike

variable {R S T : Json → Json → Prop}

/-- Leaves are alike when they are related. -/
theorem alike_leaf {v w : Json} (hv : v.isLeaf = true) :
    Alike R v w ↔ w.isLeaf = true ∧ R v w := by
  cases v with
  | arr items => cases hv
  | obj fields => cases hv
  | null | bool b | num m scale | str s => rfl

mutual

/-- Two relations between the leaves that make a third. -/
theorem alike_both (h : ∀ v w, v.isLeaf = true → w.isLeaf = true → R v w → S v w → T v w) :
    (v : Json) → ∀ w, Alike R v w → Alike S v w → Alike T v w
  | .arr items, w, hR, hS => by
    cases w with
    | arr items' => exact alikeItems_both h items items' hR hS
    | null | bool b | num m scale | str s | obj fields => exact hR.elim
  | .obj fields, w, hR, hS => by
    cases w with
    | obj fields' => exact alikeFields_both h fields fields' hR hS
    | null | bool b | num m scale | str s | arr items => exact hR.elim
  | .null, w, hR, hS => ⟨hR.1, h _ _ rfl hR.1 hR.2 hS.2⟩
  | .bool _, w, hR, hS => ⟨hR.1, h _ _ rfl hR.1 hR.2 hS.2⟩
  | .num _ _, w, hR, hS => ⟨hR.1, h _ _ rfl hR.1 hR.2 hS.2⟩
  | .str _, w, hR, hS => ⟨hR.1, h _ _ rfl hR.1 hR.2 hS.2⟩

theorem alikeItems_both (h : ∀ v w, v.isLeaf = true → w.isLeaf = true → R v w → S v w → T v w) :
    (vs : List Json) → ∀ ws, AlikeItems R vs ws → AlikeItems S vs ws → AlikeItems T vs ws
  | [], [], _, _ => trivial
  | [], _ :: _, hR, _ => hR.elim
  | _ :: _, [], hR, _ => hR.elim
  | v :: vs, w :: ws, hR, hS =>
    ⟨alike_both h v w hR.1 hS.1, alikeItems_both h vs ws hR.2 hS.2⟩

theorem alikeFields_both
    (h : ∀ v w, v.isLeaf = true → w.isLeaf = true → R v w → S v w → T v w) :
    (vs : List (String × Json)) → ∀ ws, AlikeFields R vs ws → AlikeFields S vs ws →
      AlikeFields T vs ws
  | [], [], _, _ => trivial
  | [], _ :: _, hR, _ => hR.elim
  | _ :: _, [], hR, _ => hR.elim
  | (_, v) :: vs, (_, w) :: ws, hR, hS =>
    ⟨hR.1, alike_both h v w hR.2.1 hS.2.1, alikeFields_both h vs ws hR.2.2 hS.2.2⟩

end

theorem alike_mono (h : ∀ v w, v.isLeaf = true → w.isLeaf = true → R v w → S v w) {v w : Json}
    (hR : Alike R v w) : Alike S v w :=
  alike_both (fun v w hv hw hr _ => h v w hv hw hr) v w hR hR

end Alike

/-! ## Replaced leaves -/

section Map

variable {g : Json → Json}

theorem mapLeaves_leaf {v : Json} (hv : v.isLeaf = true) : mapLeaves g v = g v := by
  cases v with
  | arr items => cases hv
  | obj fields => cases hv
  | null | bool b | num m scale | str s => rfl

theorem isLeaf_mapLeaves (hg : ∀ v, v.isLeaf = true → (g v).isLeaf = true)
    (v : Json) : (mapLeaves g v).isLeaf = v.isLeaf := by
  cases v with
  | arr items => rfl
  | obj fields => rfl
  | null | bool b | num m scale | str s => exact hg _ rfl

theorem mapLeaves_leaf_iff (hg : ∀ v, v.isLeaf = true → (g v).isLeaf = true)
    {v : Json} (hv : v.isLeaf = true) (w : Json) :
    mapLeaves g v = mapLeaves g w ↔ Alike (fun a b => g a = g b) v w := by
  rw [alike_leaf hv]
  constructor
  · intro h
    have hw : w.isLeaf = true := by rw [← isLeaf_mapLeaves hg w, ← h, isLeaf_mapLeaves hg v, hv]
    rw [mapLeaves_leaf hv, mapLeaves_leaf hw] at h
    exact ⟨hw, h⟩
  · rintro ⟨hw, h⟩
    rw [mapLeaves_leaf hv, mapLeaves_leaf hw, h]

/-- A list and a dictionary, or one of them and a leaf. -/
theorem mapLeaves_ne (hg : ∀ v, v.isLeaf = true → (g v).isLeaf = true)
    {v w : Json} (hv : v.isLeaf = false) (hw : w.isLeaf = true) :
    mapLeaves g v ≠ mapLeaves g w := by
  intro h
  have hleaf := isLeaf_mapLeaves hg v
  rw [h, isLeaf_mapLeaves hg w, hv, hw] at hleaf
  cases hleaf

mutual

/-- **Two values with their leaves replaced are equal when their leaves are.** -/
theorem mapLeaves_eq_iff (hg : ∀ v, v.isLeaf = true → (g v).isLeaf = true) :
    (v : Json) → ∀ w, mapLeaves g v = mapLeaves g w ↔ Alike (fun a b => g a = g b) v w
  | .arr items, w => by
    cases w with
    | arr items' =>
      rw [mapLeaves, mapLeaves, Json.arr.injEq]
      exact mapItems_eq_iff hg items items'
    | obj fields => simp [mapLeaves, Alike]
    | null | bool b | num m scale | str s => exact iff_of_false (mapLeaves_ne hg rfl rfl) id
  | .obj fields, w => by
    cases w with
    | obj fields' =>
      rw [mapLeaves, mapLeaves, Json.obj.injEq]
      exact mapFields_eq_iff hg fields fields'
    | arr items => simp [mapLeaves, Alike]
    | null | bool b | num m scale | str s => exact iff_of_false (mapLeaves_ne hg rfl rfl) id
  | .null, w => mapLeaves_leaf_iff hg rfl w
  | .bool _, w => mapLeaves_leaf_iff hg rfl w
  | .num _ _, w => mapLeaves_leaf_iff hg rfl w
  | .str _, w => mapLeaves_leaf_iff hg rfl w

theorem mapItems_eq_iff (hg : ∀ v, v.isLeaf = true → (g v).isLeaf = true) :
    (vs : List Json) → ∀ ws, mapItems g vs = mapItems g ws ↔ AlikeItems (fun a b => g a = g b) vs ws
  | [], [] => iff_of_true rfl trivial
  | [], _ :: _ => iff_of_false (fun h => nomatch h) id
  | _ :: _, [] => iff_of_false (fun h => nomatch h) id
  | v :: vs, w :: ws => by
    rw [mapItems, mapItems, List.cons.injEq]
    exact and_congr (mapLeaves_eq_iff hg v w) (mapItems_eq_iff hg vs ws)

theorem mapFields_eq_iff (hg : ∀ v, v.isLeaf = true → (g v).isLeaf = true) :
    (vs : List (String × Json)) → ∀ ws, mapFields g vs = mapFields g ws ↔
      AlikeFields (fun a b => g a = g b) vs ws
  | [], [] => iff_of_true rfl trivial
  | [], _ :: _ => iff_of_false (fun h => nomatch h) id
  | _ :: _, [] => iff_of_false (fun h => nomatch h) id
  | (key, v) :: vs, (key', w) :: ws => by
    rw [mapFields, mapFields, List.cons.injEq, Prod.mk.injEq, and_assoc]
    exact and_congr Iff.rfl (and_congr (mapLeaves_eq_iff hg v w) (mapFields_eq_iff hg vs ws))

end

/-! ## Sorting -/

theorem mapFields_eq_map (fields : List (String × Json)) :
    mapFields g fields = fields.map fun e => (e.1, mapLeaves g e.2) := by
  induction fields with
  | nil => rfl
  | cons e fields ih =>
    obtain ⟨key, value⟩ := e
    rw [mapFields, List.map_cons, ih]

theorem mapFields_sortFields (fields : List (String × Json)) :
    mapFields g (sortFields fields) = sortFields (mapFields g fields) := by
  rw [mapFields_eq_map, mapFields_eq_map, sortFields, sortFields]
  exact List.map_insertionSort _ _ _ _ fun a _ b _ => Iff.rfl

theorem sorted_leaf {v : Json} (hv : v.isLeaf = true) : v.sorted = v := by
  cases v with
  | arr items => cases hv
  | obj fields => cases hv
  | null | bool b | num m scale | str s => rfl

mutual

/-- **Sorting does not touch leaves.** -/
theorem sorted_mapLeaves (hg : ∀ v, v.isLeaf = true → (g v).isLeaf = true) :
    (v : Json) → (mapLeaves g v).sorted = mapLeaves g v.sorted
  | .arr items => by
    rw [mapLeaves, Json.sorted, Json.sorted, mapLeaves, sortedItems_mapItems hg items]
  | .obj fields => by
    rw [mapLeaves, Json.sorted, Json.sorted, mapLeaves, mapFields_sortFields,
      sortedFields_mapFields hg fields]
  | .null => sorted_leaf (hg _ rfl)
  | .bool _ => sorted_leaf (hg _ rfl)
  | .num _ _ => sorted_leaf (hg _ rfl)
  | .str _ => sorted_leaf (hg _ rfl)

theorem sortedItems_mapItems (hg : ∀ v, v.isLeaf = true → (g v).isLeaf = true) :
    (vs : List Json) →
    Json.sortedItems (mapItems g vs) = mapItems g (Json.sortedItems vs)
  | [] => rfl
  | v :: vs => by
    rw [mapItems, Json.sortedItems, Json.sortedItems, mapItems, sorted_mapLeaves hg v,
      sortedItems_mapItems hg vs]

theorem sortedFields_mapFields (hg : ∀ v, v.isLeaf = true → (g v).isLeaf = true) :
    (vs : List (String × Json)) →
    Json.sortedFields (mapFields g vs) = mapFields g (Json.sortedFields vs)
  | [] => rfl
  | (key, v) :: vs => by
    rw [mapFields, Json.sortedFields, Json.sortedFields, mapFields, sorted_mapLeaves hg v,
      sortedFields_mapFields hg vs]

end

/-! ## Texts -/

mutual

/-- A value has a text when all that its leaves become has one. -/
theorem dump_mapLeaves (hdump : ∀ v, v.isLeaf = true → ∃ t, dump (g v) = some t) : (v : Json) →
    ∃ t, dump (mapLeaves g v) = some t
  | .arr items => by
    obtain ⟨ts, hts⟩ := dumpItems_mapItems hdump items
    exact ⟨_, by rw [mapLeaves, dump, hts]; rfl⟩
  | .obj fields => by
    obtain ⟨ts, hts⟩ := dumpFields_mapFields hdump fields
    exact ⟨_, by rw [mapLeaves, dump, hts]; rfl⟩
  | .null => hdump _ rfl
  | .bool _ => hdump _ rfl
  | .num _ _ => hdump _ rfl
  | .str _ => hdump _ rfl

theorem dumpItems_mapItems (hdump : ∀ v, v.isLeaf = true → ∃ t, dump (g v) = some t) :
    (vs : List Json) → ∃ ts, dumpItems (mapItems g vs) = some ts
  | [] => ⟨[], rfl⟩
  | v :: vs => by
    obtain ⟨t, ht⟩ := dump_mapLeaves hdump v
    obtain ⟨ts, hts⟩ := dumpItems_mapItems hdump vs
    exact ⟨t :: ts, by rw [mapItems, dumpItems, ht, hts]; rfl⟩

theorem dumpFields_mapFields (hdump : ∀ v, v.isLeaf = true → ∃ t, dump (g v) = some t) :
    (vs : List (String × Json)) → ∃ ts, dumpFields (mapFields g vs) = some ts
  | [] => ⟨[], rfl⟩
  | (key, v) :: vs => by
    obtain ⟨t, ht⟩ := dump_mapLeaves hdump v
    obtain ⟨ts, hts⟩ := dumpFields_mapFields hdump vs
    exact ⟨_, by rw [mapFields, dumpFields, ht, hts]; rfl⟩

end

end Map

end Json

end TryTrust
