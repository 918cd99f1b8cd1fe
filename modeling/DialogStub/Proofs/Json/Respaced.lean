import DialogStub.Proofs.Json.Brackets

/-!
# White space between tokens

* `Json.Respaced` — two texts of one value that differ in white space between their tokens;
* `Respaced.valid` — a text stays well-formed;
* `Respaced.of_braces` — what differs from an object is an object with other members;
* `Json.Blind` — a reader to which such texts spell the same;
* `Shape.blind` — every shape is such a reader.

A word is one token, and so is a string with its quotes. White space may come and go on both sides
of brackets, commas and colons. The keys of objects that are passed over need not be strings.
-/

namespace DialogStub.Json

open Utf8 (Valid)

/-- **White space between tokens.** Two texts of one value: the same text; or two arrays, or two
    objects, whose parts are such texts, with any white space around them. -/
inductive Respaced : Bytes → Bytes → Prop where
  | same {text : Bytes} (value : IsValue text) (flush : Flush text) : Respaced text text
  | list {inner inner' : Bytes} {items : List (ItemText × ItemText)} (blank : Blank inner)
      (blank' : Blank inner') (values : ∀ i ∈ items, Respaced i.1.value i.2.value) :
      Respaced (brackets inner (items.map Prod.fst)) (brackets inner' (items.map Prod.snd))
  | object {inner inner' : Bytes} {members : List (KeyedText × KeyedText)} (blank : Blank inner)
      (blank' : Blank inner') (keys : ∀ m ∈ members, m.1.spelling = m.2.spelling)
      (values : ∀ m ∈ members, Respaced m.1.value m.2.value) :
      Respaced (keyedBraces inner (members.map Prod.fst))
        (keyedBraces inner' (members.map Prod.snd))

/-- Two members with the same key whose values differ in white space. -/
def MemberRespaced (pair pair' : String × Bytes) : Prop :=
  pair.1 = pair'.1 ∧ Respaced pair.2 pair'.2

namespace Respaced

variable {text text' : Bytes}

/-- A text that differs in white space only is one value. -/
theorem isValue (h : Respaced text text') : IsValue text := by
  cases h with
  | same value flush => exact value
  | list blank => exact isValue_brackets blank _
  | object blank => exact isValue_keyedBraces blank _

/-- A text can be respaced back. -/
theorem symm (h : Respaced text text') : Respaced text' text := by
  -- The pairs of old and new items are swapped, and so are the two blanks.
  induction h with
  | same value flush => exact .same value flush
  | @list inner inner' items blank blank' _ ih =>
    have hswap : Respaced (brackets inner' ((items.map Prod.swap).map Prod.fst))
        (brackets inner ((items.map Prod.swap).map Prod.snd)) :=
      .list blank' blank (List.forall_mem_map.mpr ih)
    simpa [List.map_map, Function.comp_def] using hswap
  | @object inner inner' members blank blank' keys _ ih =>
    have hswap : Respaced (keyedBraces inner' ((members.map Prod.swap).map Prod.fst))
        (keyedBraces inner ((members.map Prod.swap).map Prod.snd)) :=
      .object blank' blank (List.forall_mem_map.mpr fun m hm => (keys m hm).symm)
        (List.forall_mem_map.mpr ih)
    simpa [List.map_map, Function.comp_def] using hswap

/-- A well-formed text stays so. -/
theorem valid (h : Respaced text text') (hvalid : Valid text) : Valid text' := by
  induction h with
  | same => exact hvalid
  | list blank blank' _ ih =>
    simp only [valid_brackets_iff blank, valid_brackets_iff blank', List.forall_mem_map]
      at hvalid ⊢
    exact fun i hi => ih i hi (hvalid i hi)
  | object blank blank' keys _ ih =>
    simp only [valid_keyedBraces_iff blank, valid_keyedBraces_iff blank', List.forall_mem_map]
      at hvalid ⊢
    exact fun m hm => ⟨keys m hm ▸ (hvalid m hm).1, ih m hm (hvalid m hm).2⟩

/-! ### Taking texts apart -/

/-- Members with other white space, as members that are read. By induction on the members. -/
theorem exists_members {members : List MemberText} {pairs : List (KeyedText × KeyedText)}
    (hparts : (members.map MemberText.keyed).map KeyedText.part =
      (pairs.map Prod.fst).map KeyedText.part)
    (keys : ∀ m ∈ pairs, m.1.spelling = m.2.spelling)
    (values : ∀ m ∈ pairs, Respaced m.1.value m.2.value) :
    ∃ members' : List MemberText, members'.map MemberText.keyed = pairs.map Prod.snd ∧
      List.Forall₂ MemberRespaced (members.map MemberText.pair) (members'.map MemberText.pair) := by
  induction pairs generalizing members with
  | nil =>
    obtain rfl : members = [] := by simpa using hparts
    exact ⟨[], rfl, .nil⟩
  | cons pair pairs ih =>
    obtain ⟨k, k'⟩ := pair
    cases members with
    | nil => cases hparts
    | cons m members =>
      obtain ⟨hpart, hparts⟩ := List.cons.inj hparts
      obtain ⟨hspelling, hvalue⟩ : m.spelling = k.spelling ∧ m.value = k.value := Prod.mk.inj hpart
      obtain ⟨hkey, hkeys⟩ := List.forall_mem_cons.mp keys
      obtain ⟨hfirst, hothers⟩ := List.forall_mem_cons.mp values
      obtain ⟨members', hmembers', hrelated⟩ := ih hparts hkeys hothers
      have hrespaced : Respaced m.value k'.value := hvalue ▸ hfirst
      -- The key is spelt as before, so that it is read as before.
      let m' : MemberText :=
        ⟨m.key, k'.lead, k'.spelling, k'.gap, k'.indent, k'.value, k'.trail, k'.lead_blank,
          hkey ▸ hspelling ▸ m.spelling_reads, k'.gap_blank, k'.indent_blank, k'.value_flush,
          k'.value_passes, k'.trail_blank⟩
      refine ⟨m' :: members', ?_, .cons ⟨rfl, hrespaced⟩ hrelated⟩
      rw [List.map_cons, List.map_cons, hmembers']
      rfl

/-- What differs from an object is an object with the same keys and other values. -/
theorem of_braces {inner : Bytes} (hinner : Blank inner) {members : List MemberText}
    (h : Respaced (braces inner members) text') :
    ∃ inner' members', Blank inner' ∧ text' = braces inner' members' ∧
      List.Forall₂ MemberRespaced (members.map MemberText.pair) (members'.map MemberText.pair) := by
  generalize htext : braces inner members = text at h
  -- The text is an object, so it was left as it is or respaced as an object.
  cases h with
  | same =>
    refine ⟨inner, members, hinner, htext.symm, ?_⟩
    exact List.forall₂_map_left_iff.mpr (List.forall₂_map_right_iff.mpr
      (List.forall₂_same.mpr fun m _ => ⟨rfl, .same m.isValue m.value_flush⟩))
  | list => cases htext
  | @object inner₀ inner' pairs blank blank' keys values =>
    rw [braces_eq_keyedBraces] at htext
    obtain ⟨hparts, -⟩ := parts_eq_of_keyedText hinner blank (List.cons.inj htext).2
    obtain ⟨members', hmembers', hrelated⟩ := exists_members hparts keys values
    refine ⟨inner', members', blank', ?_, hrelated⟩
    rw [braces_eq_keyedBraces, hmembers']

end Respaced

/-! ### Readers that do not see white space -/

/-- A reader that does not see white space: it takes the same from texts that differ in no more than
    that. -/
def Blind {α : Type} (read : Nat → Bytes → Read α) : Prop :=
  ∀ {text text' : Bytes} {a : α}, Respaced text text' → Spells read text a → Spells read text' a

section Parts

variable {α σ ρ : Type}

/-- Values that are respaced spell the same. -/
theorem Blind.forall₂ {read : Nat → Bytes → Read α} (h : Blind read) {values values' : List Bytes}
    (hvalues : List.Forall₂ Respaced values values') {as : List α}
    (hspells : List.Forall₂ (Spells read) values as) : List.Forall₂ (Spells read) values' as := by
  induction hvalues generalizing as with
  | nil => exact hspells
  | cons hvalue _ ih =>
    cases hspells with
    | cons hfirst hothers => exact .cons (h hvalue hfirst) (ih hothers)

/-- Members with other white space have the same keys, and values with other white space. -/
theorem MemberRespaced.split {pairs pairs' : List (String × Bytes)}
    (h : List.Forall₂ MemberRespaced pairs pairs') (key : String) :
    List.Forall₂ Respaced (valuesOf key pairs) (valuesOf key pairs') ∧
      List.Forall₂ MemberRespaced (without key pairs) (without key pairs') := by
  induction h with
  | nil => exact ⟨.nil, .nil⟩
  | @cons pair pair' pairs pairs' hpair _ ih =>
    obtain ⟨k, value⟩ := pair
    obtain ⟨k', value'⟩ := pair'
    obtain ⟨rfl, hvalue⟩ : k = k' ∧ Respaced value value' := hpair
    -- The first member has the key or not, in both lists.
    by_cases hkey : k = key
    · subst hkey
      rw [valuesOf_cons_self, valuesOf_cons_self, without_cons_self, without_cons_self]
      exact ⟨.cons hvalue ih.1, ih.2⟩
    · rw [valuesOf_cons_of_ne hkey, valuesOf_cons_of_ne hkey, without_cons_of_ne hkey,
        without_cons_of_ne hkey]
      exact ⟨ih.1, .cons ⟨rfl, hvalue⟩ ih.2⟩

/-- Respaced members have values. -/
theorem MemberRespaced.isValue {pairs pairs' : List (String × Bytes)}
    (h : List.Forall₂ MemberRespaced pairs pairs') : ∀ pair ∈ pairs', IsValue pair.2 := by
  induction h with
  | nil => exact List.forall_mem_nil _
  | cons hpair _ ih => exact List.forall_mem_cons.mpr ⟨hpair.2.symm.isValue, ih⟩

/-- What the values of its key give to a field. -/
theorem Note.Gives.respaced {note : Note α} {shape : Shape α} {depth : Nat}
    (hblind : Blind fun fuel => shape.read fuel depth) {values values' : List Bytes}
    (hvalues : List.Forall₂ Respaced values values') {a : α}
    (h : note.Gives shape depth values a) : note.Gives shape depth values' a := by
  rw [Note.gives_iff] at h ⊢
  rcases h with ⟨rfl, hsettle⟩ | ⟨value, rfl, hspells⟩
  · cases hvalues
    exact .inl ⟨rfl, hsettle⟩
  · cases hvalues with
    | @cons _ value' _ _ hvalue hnil =>
      cases hnil
      exact .inr ⟨value', rfl, hblind hvalue hspells⟩

/-- Members of any object, one after the other. -/
theorem runs_addMember_respaced {read : Nat → Bytes → Read Json} (hlocal : Local read)
    (hblind : Blind read) {pairs pairs' : List (String × Bytes)}
    (hpairs : List.Forall₂ MemberRespaced pairs pairs') {done last : List (String × Json)}
    (h : Runs (fun fuel key done bs => addMember (read fuel) key done bs) done pairs last) :
    Runs (fun fuel key done bs => addMember (read fuel) key done bs) done pairs' last := by
  induction hpairs generalizing done with
  | nil => exact h
  | @cons pair pair' pairs pairs' hpair _ ih =>
    obtain ⟨key, value⟩ := pair
    obtain ⟨key', value'⟩ := pair'
    obtain ⟨rfl, hvalue⟩ : key = key' ∧ Respaced value value' := hpair
    cases h with
    | cons hassigns hrest =>
      -- The value spells the same with other white space, so the same step is made.
      obtain ⟨j, hspells, hnext⟩ := (assigns_addMember_iff hlocal).mp hassigns
      exact .cons ((assigns_addMember_iff hlocal).mpr ⟨j, hblind hvalue hspells, hnext⟩) (ih hrest)

end Parts

/-! ### All shapes -/

/-- Two arrays, or two objects whose keys are strings, that differ in white space. -/
inductive Reopened : Bytes → Bytes → Prop where
  | list {inner inner' : Bytes} {items items' : List ItemText} (blank : Blank inner)
      (blank' : Blank inner')
      (values : List.Forall₂ Respaced (items.map ItemText.value) (items'.map ItemText.value)) :
      Reopened (brackets inner items) (brackets inner' items')
  | object {inner inner' : Bytes} {members members' : List MemberText} (blank : Blank inner)
      (blank' : Blank inner')
      (pairs : List.Forall₂ MemberRespaced (members.map MemberText.pair)
        (members'.map MemberText.pair)) :
      Reopened (braces inner members) (braces inner' members')

section Shapes

variable {α σ ρ : Type}

/-- What is read stays the same text, or is an array or an object where one may be opened. -/
theorem Respaced.reopened {text text' : Bytes} (h : Respaced text text') (shape : Shape α)
    {depth : Nat} {a : α} (hspells : Spells (fun fuel => shape.read fuel depth) text a) :
    text' = text ∨ ∃ d, depth = d + 1 ∧ Reopened text text' := by
  -- A scalar has no white space inside; brackets need a level each.
  cases h with
  | same => exact .inl rfl
  | list blank blank' values =>
    obtain ⟨d, rfl⟩ := shape.exists_depth (.inl rfl) hspells
    refine .inr ⟨d, rfl, .list blank blank' ?_⟩
    simpa [List.forall₂_map_left_iff, List.forall₂_map_right_iff, List.forall₂_same] using values
  | @object inner inner' members blank blank' keys values =>
    obtain ⟨d, rfl⟩ := shape.exists_depth (.inr rfl) hspells
    obtain ⟨inner₀, members₀, hinner, htext⟩ := shape.exists_braces hspells
    have hrespaced := Respaced.object blank blank' keys values
    rw [show keyedBraces inner (members.map Prod.fst) = braces inner₀ members₀ from htext]
      at hrespaced ⊢
    obtain ⟨inner₁, members₁, hinner', htext', hpairs⟩ := of_braces hinner hrespaced
    rw [htext']
    exact .inr ⟨d, rfl, .object hinner hinner' hpairs⟩

/-- A word has no white space in it. -/
theorem Respaced.eq_of_consumes {text text' : Bytes} (h : Respaced text text') {value : Json}
    (hword : Consumes readStart text (.scalar value)) : text' = text := by
  -- It is read even where no bracket may be opened.
  have hspells : Spells (fun fuel => Shape.any.read fuel 0) text value :=
    fun _ _ tail htail => read_scalar (hword tail htail)
  rcases h.reopened _ hspells with heq | ⟨d, hd, -⟩
  · exact heq
  · cases hd

/-- Any value is read without its white space. By induction on the depth. -/
theorem blind_any (depth : Nat) : Blind fun fuel => Json.read fuel depth := by
  induction depth with
  | zero =>
    intro text text' j h hspells
    rcases h.reopened .any hspells with rfl | ⟨d, hd, -⟩
    · exact hspells
    · cases hd
  | succ depth ih =>
    intro text text' j h hspells
    rcases h.reopened .any hspells with rfl | ⟨-, -, hreopened⟩
    · exact hspells
    -- Behind the bracket, the items and members are one level down.
    cases hreopened with
    | list blank blank' values =>
      obtain ⟨js, hitems, rfl⟩ := (spells_arr_iff blank).mp hspells
      exact (spells_arr_iff blank').mpr ⟨js, Blind.forall₂ ih values hitems, rfl⟩
    | object blank blank' pairs =>
      obtain ⟨done, hruns, rfl⟩ := (spells_obj_iff blank).mp hspells
      exact (spells_obj_iff blank').mpr
        ⟨done, runs_addMember_respaced (read_local depth) ih pairs hruns, rfl⟩

/-- A scalar is read without its white space. -/
theorem Shape.blind_scalar (kind : Scalar α) (depth : Nat) :
    Blind fun fuel => (Shape.scalar kind).read fuel depth := by
  intro text text' a h hspells
  rcases h.reopened _ hspells with rfl | ⟨d, -, hreopened⟩
  · exact hspells
  simp only [Shape.read] at hspells
  cases hreopened with
  | list => exact absurd hspells (Scalar.not_spells (.inl rfl))
  | object => exact absurd hspells (Scalar.not_spells (.inr rfl))

/-- A value that may be missing is read without its white space, if a value that is there is. -/
theorem Shape.blind_option {item : Shape α} {depth : Nat}
    (hitem : Blind fun fuel => item.read fuel depth) :
    Blind fun fuel => (Shape.option item).read fuel depth := by
  intro text text' field h hspells
  rcases h.reopened _ hspells with rfl | ⟨d, -, hreopened⟩
  · exact hspells
  -- No bracket is the begin of a `null`.
  cases hreopened with
  | list =>
    obtain ⟨a, rfl, ha⟩ := (Shape.spells_some_iff (by decide) (by decide)).mp hspells
    exact (Shape.spells_some_iff (by decide) (by decide)).mpr ⟨a, rfl, hitem h ha⟩
  | object =>
    obtain ⟨a, rfl, ha⟩ := (Shape.spells_some_iff (by decide) (by decide)).mp hspells
    exact (Shape.spells_some_iff (by decide) (by decide)).mpr ⟨a, rfl, hitem h ha⟩

/-- A list is read without its white space, if its items are. -/
theorem Shape.blind_list {item : Shape α} (hitem : ∀ depth, Blind fun fuel => item.read fuel depth)
    (depth : Nat) : Blind fun fuel => (Shape.list item).read fuel depth := by
  intro text text' as h hspells
  rcases h.reopened _ hspells with rfl | ⟨d, rfl, hreopened⟩
  · exact hspells
  cases hreopened with
  | list blank blank' values =>
    exact (Shape.spells_list_iff blank').mpr
      (Blind.forall₂ (hitem d) values ((Shape.spells_list_iff blank).mp hspells))
  | object => exact absurd hspells Shape.not_spells_list

/-- A choice is read without its white space. -/
theorem Shape.blind_choice {name : String} {doc : Option String} {variants : List (String × α)}
    {label : α → String} {law : ∀ a, variants.lookup (label a) = some a} (depth : Nat) :
    Blind fun fuel => (Shape.choice name doc variants label law).read fuel depth := by
  intro text text' a h hspells
  rcases h.reopened _ hspells with rfl | ⟨d, rfl, hreopened⟩
  · exact hspells
  cases hreopened with
  | list => exact absurd hspells Shape.not_spells_choice
  | object blank blank' pairs =>
    obtain ⟨key, value, hpairs, hlookup, hnull⟩ := (Shape.spells_variant_iff blank).mp hspells
    rw [hpairs, List.forall₂_cons_left_iff] at pairs
    obtain ⟨⟨key', value'⟩, rest, ⟨hkey, hvalue⟩, hrest, hpairs'⟩ := pairs
    obtain rfl : rest = [] := by simpa using hrest
    -- The value of a variant is `null`, which has no white space inside.
    obtain rfl : value' = value := hvalue.eq_of_consumes hnull
    obtain rfl : key = key' := hkey
    exact (Shape.spells_variant_iff blank').mpr ⟨key, value', hpairs', hlookup, hnull⟩

/-- A record is read without its white space, if its fields are. -/
theorem Shape.blind_record {name : String} {doc : Option String} {fields : Fields σ ρ}
    {build : ρ → α} {parts : α → ρ} {law : ∀ a, build (parts a) = a}
    (hgives : ∀ depth {pairs pairs' values}, List.Forall₂ MemberRespaced pairs pairs' →
      fields.Gives depth pairs values → fields.Gives depth pairs' values)
    (hlists : ∀ depth {values values' : List Bytes} {a}, List.Forall₂ Respaced values values' →
      fields.Lists depth values a → fields.Lists depth values' a) (depth : Nat) :
    Blind fun fuel => (Shape.record name doc fields build parts law).read fuel depth := by
  intro text text' a h hspells
  rcases h.reopened _ hspells with rfl | ⟨d, rfl, hreopened⟩
  · exact hspells
  -- A record is read from an array or from an object.
  cases hreopened with
  | list blank blank' values =>
    obtain ⟨parts', hparts, rfl⟩ := (Shape.spells_array_iff blank).mp hspells
    exact (Shape.spells_array_iff blank').mpr ⟨parts', hlists d values hparts, rfl⟩
  | object blank blank' pairs =>
    obtain ⟨parts', hparts, rfl⟩ := (Shape.spells_object_iff blank).mp hspells
    exact (Shape.spells_object_iff blank').mpr ⟨parts', hgives d pairs hparts, rfl⟩

/-- Fields by name are read without white space. -/
theorem Fields.gives_cons_respaced {note : Note α} {shape : Shape α} {others : Fields σ ρ}
    {depth : Nat} (hshape : Blind fun fuel => shape.read fuel depth)
    (hothers : ∀ {pairs pairs' values}, List.Forall₂ MemberRespaced pairs pairs' →
      others.Gives depth pairs values → others.Gives depth pairs' values)
    {pairs pairs' : List (String × Bytes)} {values : α × ρ}
    (h : List.Forall₂ MemberRespaced pairs pairs')
    (hgives : (Fields.cons note shape others).Gives depth pairs values) :
    (Fields.cons note shape others).Gives depth pairs' values := by
  obtain ⟨a, values⟩ := values
  obtain ⟨hvalues, hrest⟩ := MemberRespaced.split h note.key
  obtain ⟨hfirst, hlast⟩ := Fields.gives_cons_iff.mp hgives
  exact Fields.gives_cons_iff.mpr ⟨hfirst.respaced hshape hvalues, hothers hrest hlast⟩

/-- Fields by position are read without white space. -/
theorem Fields.lists_cons_respaced {note : Note α} {shape : Shape α} {others : Fields σ ρ}
    {depth : Nat} (hshape : Blind fun fuel => shape.read fuel depth)
    (hothers : ∀ {values values' : List Bytes} {a}, List.Forall₂ Respaced values values' →
      others.Lists depth values a → others.Lists depth values' a)
    {values values' : List Bytes} {a : α × ρ} (h : List.Forall₂ Respaced values values')
    (hlists : (Fields.cons note shape others).Lists depth values a) :
    (Fields.cons note shape others).Lists depth values' a := by
  cases h with
  | nil => exact hlists
  | cons hvalue hrest => exact ⟨hshape hvalue hlists.1, hothers hrest hlists.2⟩

end Shapes

mutual

/-- **Shapes do not see white space**: what a shape takes of a text it takes of every text that
    differs in white space between tokens. -/
theorem Shape.blind : {α : Type} → (shape : Shape α) → (depth : Nat) →
    Blind fun fuel => shape.read fuel depth
  | _, .scalar kind, depth => Shape.blind_scalar kind depth
  | _, .any, depth => by
    simpa only [Shape.read] using blind_any depth
  | _, .option item, depth => Shape.blind_option (item.blind depth)
  | _, .list item, depth => Shape.blind_list item.blind depth
  | _, .choice _ _ _ _ _, depth => Shape.blind_choice depth
  | _, .record _ _ fields _ _ _, depth =>
    Shape.blind_record fields.gives_respaced fields.lists_respaced depth

/-- Neither do the fields of an object. -/
theorem Fields.gives_respaced : {σ ρ : Type} → (fields : Fields σ ρ) → (depth : Nat) →
    {pairs pairs' : List (String × Bytes)} → {values : ρ} →
    List.Forall₂ MemberRespaced pairs pairs' → fields.Gives depth pairs values →
    fields.Gives depth pairs' values
  | _, _, .nil, _, _, _, _, h, _ => Fields.gives_nil (MemberRespaced.isValue h)
  | _, _, .cons _ shape others, depth, _, _, _, h, hgives =>
    Fields.gives_cons_respaced (shape.blind depth) (others.gives_respaced depth) h hgives

/-- And neither do the fields of an array. -/
theorem Fields.lists_respaced : {σ ρ : Type} → (fields : Fields σ ρ) → (depth : Nat) →
    {values values' : List Bytes} → {a : ρ} → List.Forall₂ Respaced values values' →
    fields.Lists depth values a → fields.Lists depth values' a
  | _, _, .nil, _, values, values', _, h, hlists => by
    obtain rfl : values = [] := hlists
    cases h
    rfl
  | _, _, .cons _ shape others, depth, _, _, _, h, hlists =>
    Fields.lists_cons_respaced (shape.blind depth) (others.lists_respaced depth) h hlists

end

end DialogStub.Json
