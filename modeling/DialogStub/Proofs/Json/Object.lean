import DialogStub.Json.Basic
import DialogStub.Proofs.Text.Order

/-!
# What an object keeps of its members

* `Json.lasts` — the members that no later one of the same key replaces;
* `Json.InOrder` — members in strictly increasing order of the bytes of their keys;
* `Json.object_eq_iff` — an object keeps the last member of each key, in this order.
-/

namespace DialogStub.Json

variable {α : Type}

/-- The members that no later one of the same key replaces. -/
def lasts : List (String × α) → List (String × α)
  | [] => []
  | m :: members => if m.1 ∈ members.map Prod.fst then lasts members else m :: lasts members

/-- Members in strictly increasing order of the bytes of their keys. -/
def InOrder (members : List (String × α)) : Prop :=
  members.Pairwise fun m m' => Utf8.bytes m.1 < Utf8.bytes m'.1

/-- The last members are some of them, in their order. -/
theorem lasts_sublist (members : List (String × α)) : (lasts members).Sublist members := by
  induction members with
  | nil => exact .slnil
  | cons m members ih =>
    rw [lasts]
    split
    · exact ih.cons m
    · exact ih.cons_cons m

theorem inOrder_cons_iff {m : String × α} {members : List (String × α)} :
    InOrder (m :: members) ↔ (∀ m' ∈ members, m.1 < m'.1) ∧ InOrder members := by
  simp only [InOrder, List.pairwise_cons, Utf8.bytes_lt_iff]

/-- Members in order differ in their keys. -/
theorem InOrder.lasts_eq {members : List (String × α)} (h : InOrder members) :
    lasts members = members := by
  induction members with
  | nil => rfl
  | cons m members ih =>
    obtain ⟨hless, hothers⟩ := inOrder_cons_iff.mp h
    rw [lasts, if_neg, ih hothers]
    intro hagain
    obtain ⟨m', hm', heq⟩ := List.mem_map.mp hagain
    have hlt := hless m' hm'
    rw [heq] at hlt
    exact String.lt_irrefl _ hlt

/-- There is one way to put members in order. -/
theorem InOrder.eq_of_perm {members members' : List (String × α)} (h : InOrder members)
    (h' : InOrder members') (hperm : members.Perm members') : members = members' :=
  hperm.eq_of_pairwise (fun _ _ _ _ hlt hgt => absurd hgt (List.lt_asymm hlt)) h h'

/-! ### One member put at its place -/

section Insert

variable (key : String) (value : Json) {members : List (String × Json)}

/-- A member takes the place of those of its key. -/
theorem insert_perm (h : InOrder members) : (insert key value members).Perm
    ((key, value) :: members.filter fun m => m.1 ≠ key) := by
  induction members with
  | nil => exact .refl _
  | cons m members ih =>
    obtain ⟨k, v⟩ := m
    obtain ⟨hless, hothers⟩ := inOrder_cons_iff.mp h
    rw [insert]
    -- Behind a greater key there are only greater ones.
    have hkept {key : String} (hkey : ∀ m ∈ members, key < m.1) :
        members.filter (fun m => m.1 ≠ key) = members := by
      refine List.filter_eq_self.mpr fun m hm => ?_
      simpa using (String.ne_of_lt (hkey m hm)).symm
    by_cases hlt : key < k
    · have hne : k ≠ key := (String.ne_of_lt hlt).symm
      rw [if_pos hlt, List.filter_cons_of_pos (by simpa using hne),
        hkept fun m hm => String.lt_trans hlt (hless m hm)]
    rw [if_neg hlt]
    by_cases heq : key = k
    · subst heq
      rw [if_pos rfl, List.filter_cons_of_neg (by simp), hkept hless]
    · rw [if_neg heq, List.filter_cons_of_pos (by simpa using Ne.symm heq)]
      exact ((ih hothers).cons (k, v)).trans (.swap _ _ _)

/-- A member is inserted in its place. -/
theorem inOrder_insert (h : InOrder members) : InOrder (insert key value members) := by
  induction members with
  | nil => exact List.pairwise_singleton _ _
  | cons m members ih =>
    obtain ⟨k, v⟩ := m
    obtain ⟨hless, hothers⟩ := inOrder_cons_iff.mp h
    rw [insert]
    -- The new key goes before the first one, takes its value over, or goes behind it.
    by_cases hlt : key < k
    · rw [if_pos hlt]
      refine inOrder_cons_iff.mpr ⟨List.forall_mem_cons.mpr ⟨hlt, fun m hm => ?_⟩, h⟩
      exact String.lt_trans hlt (hless m hm)
    rw [if_neg hlt]
    by_cases heq : key = k
    · subst heq
      rw [if_pos rfl]
      exact inOrder_cons_iff.mpr ⟨hless, hothers⟩
    · rw [if_neg heq]
      refine inOrder_cons_iff.mpr ⟨fun m hm => ?_, ih hothers⟩
      -- What stands behind the first member now is the new one or one that stood there before.
      rcases List.mem_cons.mp ((insert_perm key value hothers).mem_iff.mp hm) with rfl | hm
      · refine Decidable.byContradiction fun hgreater => heq ?_
        exact String.le_antisymm (String.not_lt.mp hgreater) (String.not_lt.mp hlt)
      · exact hless m (List.mem_filter.mp hm).1

end Insert

/-! ### All members -/

/-- Members that are put among others one after the other. By induction on these members: those that
    were there stay if no key of them comes again. -/
theorem foldl_insert (members : List (String × Json)) {kept : List (String × Json)}
    (h : InOrder kept) :
    InOrder (members.foldl (fun ms m => insert m.1 m.2 ms) kept) ∧
      (members.foldl (fun ms m => insert m.1 m.2 ms) kept).Perm
        (kept.filter (fun m => m.1 ∉ members.map Prod.fst) ++ lasts members) := by
  induction members generalizing kept with
  | nil =>
    refine ⟨h, ?_⟩
    rw [lasts, List.append_nil, List.filter_eq_self.mpr fun _ _ => by simp]
    exact .refl _
  | cons m members ih =>
    obtain ⟨horder, hperm⟩ := ih (inOrder_insert m.1 m.2 h)
    refine ⟨horder, hperm.trans ?_⟩
    have hkept := ((insert_perm m.1 m.2 h).filter fun m => m.1 ∉ members.map Prod.fst).append_right
      (lasts members)
    refine hkept.trans ?_
    -- The members kept besides this one are those that no later member replaces.
    have hothers : (kept.filter fun m' => m'.1 ≠ m.1).filter
          (fun m' => m'.1 ∉ members.map Prod.fst) =
        kept.filter fun m' => m'.1 ∉ (m :: members).map Prod.fst := by
      rw [List.filter_filter]
      refine List.filter_congr fun m' _ => ?_
      by_cases heq : m'.1 = m.1
      · simp [heq]
      · by_cases hmem : m'.1 ∈ members.map Prod.fst
        · simp [hmem]
        · simp [heq, hmem]
    by_cases hagain : m.1 ∈ members.map Prod.fst
    · -- A later member has the same key.
      rw [List.filter_cons_of_neg (by simpa using hagain), hothers, lasts, if_pos hagain]
    · rw [List.filter_cons_of_pos (by simpa using hagain), hothers, lasts, if_neg hagain]
      exact List.perm_middle.symm

/-- **An object keeps the last member of each key**, in the order of the keys. -/
theorem object_eq_iff {members kept : List (String × Json)} :
    object members = .obj kept ↔ InOrder kept ∧ kept.Perm (lasts members) := by
  obtain ⟨horder, hperm⟩ := foldl_insert members (List.Pairwise.nil : InOrder [])
  constructor
  · intro h
    obtain rfl := Json.obj.inj h
    exact ⟨horder, hperm⟩
  · rintro ⟨horder', hperm'⟩
    exact congrArg Json.obj (horder.eq_of_perm horder' (hperm.trans hperm'.symm))

end DialogStub.Json
