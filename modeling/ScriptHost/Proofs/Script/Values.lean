import ScriptHost.Proofs.Custody.Soundness

/-!
What values hold on to when something inside them changes.

A change inside a list or a table trades what was there for what is there afterwards. Entries that
are merged into a table go where those of the same names were, and these are given back.
-/

set_option autoImplicit false

namespace ScriptHost.Script.Value

def ownedEntries (entries : List (String × Value)) : Multiset Holding := ↑(entryHoldings entries)

@[simp] theorem owned_table (entries : List (String × Value)) :
    (table entries).owned = ownedEntries entries := by
  simp only [owned, ownedEntries, holdings]

@[simp] theorem ownedEntries_nil : ownedEntries [] = 0 := rfl

@[simp] theorem ownedEntries_cons (name : String) (value : Value)
    (rest : List (String × Value)) :
    ownedEntries ((name, value) :: rest) = value.owned + ownedEntries rest :=
  (Multiset.coe_add _ _).symm

theorem owned_eq_zero {value : Value} (free : value.holdings = []) : value.owned = 0 := by
  rw [owned, free]
  rfl

theorem lookup_cons_ne {name other : String} (different : other ≠ name) (value : Value)
    (rest : List (String × Value)) :
    ((other, value) :: rest).lookup name = rest.lookup name := by
  have apart : (name == other) = false := beq_eq_false_iff_ne.mpr (Ne.symm different)
  rw [List.lookup_cons, apart]

theorem ownedEntries_alterEntry {name : String} {entries : List (String × Value)} {value : Value}
    (found : entries.lookup name = some value) (change : Value → Value) :
    ownedEntries (alterEntry name change entries) + value.owned =
      ownedEntries entries + (change value).owned := by
  induction entries with
  | nil => cases found
  | cons entry rest ih =>
      obtain ⟨other, held⟩ := entry
      by_cases same : other = name
      · subst same
        rw [List.lookup_cons_self] at found
        injection found with heldEq
        rw [alterEntry, if_pos rfl, ownedEntries_cons, ownedEntries_cons, heldEq]
        abel
      · rw [lookup_cons_ne same] at found
        rw [alterEntry, if_neg same, ownedEntries_cons, ownedEntries_cons, add_assoc, ih found,
          add_assoc]

theorem ownedEntries_insertEntry {name : String} {entries : List (String × Value)}
    (absent : entries.lookup name = none) (value : Value) :
    ownedEntries (insertEntry name value entries) = value.owned + ownedEntries entries := by
  induction entries with
  | nil => rfl
  | cons entry rest ih =>
      obtain ⟨other, held⟩ := entry
      have different : other ≠ name := by
        rintro rfl
        rw [List.lookup_cons_self] at absent
        cases absent
      rw [lookup_cons_ne different] at absent
      unfold insertEntry
      split
      · simp only [ownedEntries_cons]
      · rw [if_neg (Ne.symm different), ownedEntries_cons, ownedEntries_cons, ih absent]
        abel

theorem owned_mergeEntries (added held : List (String × Value)) :
    ownedEntries (mergeEntries added held).1 + ownedAll (mergeEntries added held).2 =
      ownedEntries added + ownedEntries held := by
  induction added generalizing held with
  | nil => simp [mergeEntries]
  | cons entry rest ih =>
      obtain ⟨name, value⟩ := entry
      unfold mergeEntries
      cases found : held.lookup name with
      | none =>
          dsimp only
          rw [ih, ownedEntries_insertEntry found, ownedEntries_cons]
          abel
      | some old =>
          have traded := ownedEntries_alterEntry found fun _ => value
          have later := ih (alterEntry name (fun _ => value) held)
          dsimp only
          calc
            _ = (ownedEntries (mergeEntries rest (alterEntry name (fun _ => value) held)).1 +
                ownedAll (mergeEntries rest (alterEntry name (fun _ => value) held)).2) +
                  old.owned := by
              rw [ownedAll_cons]
              abel
            _ = ownedEntries rest +
                (ownedEntries (alterEntry name (fun _ => value) held) + old.owned) := by
              rw [later, add_assoc]
            _ = _ := by
              rw [traded, ownedEntries_cons]
              abel

theorem ownedEntries_zip (names : List String) (values : List Value) :
    ownedEntries (names.zip values) + ownedAll (values.drop names.length) = ownedAll values := by
  induction names generalizing values with
  | nil => simp
  | cons name rest ih =>
      cases values with
      | nil => simp
      | cons value others =>
          rw [List.zip_cons_cons, ownedEntries_cons, List.length_cons, List.drop_succ_cons,
            add_assoc, ih, ownedAll_cons]

theorem inside?_append (left right : List Step) (value : Value) :
    inside? (left ++ right) value = inside? left value >>= inside? right := by
  induction left generalizing value with
  | nil => rfl
  | cons step rest ih =>
      have deeper : inside? (rest ++ right) = fun value => inside? rest value >>= inside? right :=
        funext ih
      cases step with
      | item index =>
          cases value <;> try rfl
          change _ >>= inside? (rest ++ right) = (_ >>= inside? rest) >>= inside? right
          rw [deeper, bind_assoc]
      | entry name =>
          cases value <;> try rfl
          change _ >>= inside? (rest ++ right) = (_ >>= inside? rest) >>= inside? right
          rw [deeper, bind_assoc]

/-- A change inside a value trades what was there for what is there afterwards. -/
theorem owned_alterInside {path : List Step} {value old : Value}
    (found : inside? path value = some old) (change : Value → Value) :
    (alterInside change path value).owned + old.owned = value.owned + (change old).owned := by
  induction path generalizing value with
  | nil =>
      injection found with valueEq
      rw [← valueEq]
      exact add_comm _ _
  | cons step rest ih =>
      cases step with
      | item index =>
          cases value with
          | list items =>
              obtain ⟨item, itemFound, inner⟩ := Option.bind_eq_some_iff.mp found
              have traded := ownedAll_modify itemFound id (alterInside change rest)
              have deeper := ih inner
              simp only [List.map_id, id_eq] at traded
              change (list (items.modify index (alterInside change rest))).owned + _ = _
              rw [owned_list, owned_list]
              apply add_right_cancel (b := item.owned)
              calc
                _ = (ownedAll (items.modify index (alterInside change rest)).toList +
                    item.owned) + old.owned := by abel
                _ = ownedAll items.toList + ((alterInside change rest item).owned + old.owned) := by
                  rw [traded, add_assoc]
                _ = _ := by
                  rw [deeper]
                  abel
          | datum _ => cases found
          | object _ => cases found
          | table _ => cases found
          | function _ _ => cases found
          | shared _ => cases found
      | entry name =>
          cases value with
          | table entries =>
              obtain ⟨held, heldFound, inner⟩ := Option.bind_eq_some_iff.mp found
              have traded := ownedEntries_alterEntry heldFound (alterInside change rest)
              have deeper := ih inner
              change (table (alterEntry name (alterInside change rest) entries)).owned + _ = _
              rw [owned_table, owned_table]
              apply add_right_cancel (b := held.owned)
              calc
                _ = (ownedEntries (alterEntry name (alterInside change rest) entries) +
                    held.owned) + old.owned := by abel
                _ = ownedEntries entries +
                    ((alterInside change rest held).owned + old.owned) := by
                  rw [traded, add_assoc]
                _ = _ := by
                  rw [deeper]
                  abel
          | datum _ => cases found
          | object _ => cases found
          | list _ => cases found
          | function _ _ => cases found
          | shared _ => cases found

theorem owned_inside_le {path : List Step} {value old : Value}
    (found : inside? path value = some old) : old.owned ≤ value.owned := by
  have traded := owned_alterInside found fun _ => unit
  rw [owned_datum, add_zero] at traded
  exact traded ▸ Multiset.le_add_left _ _

theorem owned_lookup_le {name : String} {entries : List (String × Value)} {value : Value}
    (found : entries.lookup name = some value) : value.owned ≤ ownedEntries entries := by
  have traded := ownedEntries_alterEntry found fun _ => unit
  rw [owned_datum, add_zero] at traded
  exact traded ▸ Multiset.le_add_left _ _

theorem owned_le_ownedAll {value : Value} {values : List Value} (member : value ∈ values) :
    value.owned ≤ ownedAll values := by
  obtain ⟨before, after, rfl⟩ := List.append_of_mem member
  rw [ownedAll_append, ownedAll_cons]
  exact (Multiset.le_add_right _ _).trans (Multiset.le_add_left _ _)

end ScriptHost.Script.Value
