import TreeTable.Dashboard.State

namespace TreeTable.Store

variable {α : Type}

def Numbered (store : Store α) : Prop :=
  ∀ handle, (Entries.value? store handle).isSome ↔ handle.edition < store.editions handle.name

theorem editions_eq (store : Store α) (name : String) :
    store.editions name = (Entries.keys store).countP fun handle => handle.name == name := by
  simp [editions, Entries.keys, List.countP_map, Function.comp_def]

theorem numbered_nil : Numbered ([] : Store α) := by
  intro handle
  simp [Entries.value?, editions]

theorem Numbered.value?_next {store : Store α} (numbered : store.Numbered) (name : String) :
    Entries.value? store (store.next name) = none := by
  have absent : ¬ (Entries.value? store (store.next name)).isSome := by
    rw [numbered]
    exact Nat.lt_irrefl _
  simpa using absent

theorem isSome_value?_put (store : Store α) (handle other : Handle) (object : α) :
    (Entries.value? (store.put handle object) other).isSome ↔
      other = handle ∨ (Entries.value? store other).isSome := by
  by_cases same : other = handle
  · simp [same]
  · simp [same, Entries.value?_put_of_ne]

theorem Numbered.put_known {store : Store α} (numbered : store.Numbered) {handle : Handle}
    (known : (Entries.value? store handle).isSome) (object : α) :
    Numbered (store.put handle object) := by
  intro other
  have keys : Entries.keys (store.put handle object) = Entries.keys store := by
    rw [Entries.keys_put, Entries.has, if_pos known]
  rw [isSome_value?_put, editions_eq, keys, ← editions_eq, numbered other]
  refine or_iff_right_of_imp ?_
  rintro rfl
  exact (numbered other).mp known

theorem latest?_put_known {store : Store α} {handle : Handle}
    (known : (Entries.value? store handle).isSome) (object : α) (name : String) :
    latest? (store.put handle object) name = store.latest? name := by
  have keys : Entries.keys (store.put handle object) = Entries.keys store := by
    rw [Entries.keys_put, Entries.has, if_pos known]
  unfold latest?
  rw [editions_eq, keys, ← editions_eq]

theorem Numbered.put_next {store : Store α} (numbered : store.Numbered) (name : String)
    (object : α) : Numbered (store.put (store.next name) object) := by
  intro other
  have keys : Entries.keys (store.put (store.next name) object) =
      Entries.keys store ++ [store.next name] := by
    rw [Entries.keys_put, Entries.has, numbered.value?_next name]
    rfl
  rw [isSome_value?_put, editions_eq, keys, List.countP_append, ← editions_eq, numbered other]
  obtain ⟨otherName, edition⟩ := other
  by_cases same : name = otherName
  · subst same
    simp [next]
    omega
  · simp [next, same, Ne.symm same]

theorem Numbered.alter {store : Store α} (numbered : store.Numbered) (handle : Handle)
    (change : α → α) : Numbered (Entries.alter store handle change) := by
  intro other
  rw [editions_eq, Entries.keys_alter, ← editions_eq, ← numbered other, Entries.value?_alter]
  simp

theorem Numbered.isSome_of_latest? {store : Store α} (numbered : store.Numbered) {name : String}
    {handle : Handle} (latest : store.latest? name = some handle) :
    (Entries.value? store handle).isSome := by
  rw [numbered]
  unfold latest? at latest
  split at latest
  · contradiction
  · rename_i edition count
    cases latest
    exact count ▸ Nat.lt_succ_self edition

theorem name_of_latest? {store : Store α} {name : String} {handle : Handle}
    (latest : store.latest? name = some handle) : handle.name = name := by
  unfold latest? at latest
  split at latest
  · contradiction
  · cases latest
    rfl

theorem Numbered.editions_congr {β : Type} {store : Store α} {other : Store β}
    (numbered : store.Numbered) (numbered' : other.Numbered) (name : String)
    (same : ∀ edition, (Entries.value? store ⟨name, edition⟩).isSome =
      (Entries.value? other ⟨name, edition⟩).isSome) :
    store.editions name = other.editions name := by
  have below : ∀ edition, edition < store.editions name ↔ edition < other.editions name := by
    intro edition
    rw [← numbered ⟨name, edition⟩, ← numbered' ⟨name, edition⟩, same]
  have least := below (other.editions name)
  have most := below (store.editions name)
  omega

end TreeTable.Store
