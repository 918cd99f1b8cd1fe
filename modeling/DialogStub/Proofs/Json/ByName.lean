import DialogStub.Proofs.Json.Fieldwise
import DialogStub.Proofs.Json.Respaced
import Mathlib.Logic.Relation

/-!
# Records are read by name

* `Shape.Place` — one place in two texts, at any depth;
* `Place.spells_iff`, `Place.exists_spells` — what is read of a text depends on the part at the
  place by what is read of it, and so does whether the text is read;
* `Shape.Within` — the members of a record change at a place;
* `Within.spells_iff`, `Within.valid_iff` — harmless changes leave what is read, and are UTF-8;
* `Within.not_spells` — a fatal change leaves nothing to be read;
* `Shape.Varies`, `Shape.Spoils` — the same of documents, with any number of harmless changes and
  with white space between tokens;
* `Shape.ByName`, `Shape.byName` — records are read by name, and not by place.
-/

namespace DialogStub.Json

open Utf8 (Valid)

/-! ### Places -/

/-- A text that begins with a bracket. -/
def Opens (text : Bytes) : Prop :=
  ∃ b more, text = b :: more ∧ (b = 0x5B ∨ b = 0x7B)

/-- An array opens with a bracket. -/
theorem opens_brackets (inner : Bytes) (items : List ItemText) : Opens (brackets inner items) :=
  ⟨0x5B, _, rfl, .inl rfl⟩

/-- So does an object. -/
theorem opens_braces (inner : Bytes) (members : List MemberText) : Opens (braces inner members) :=
  ⟨0x7B, _, rfl, .inr rfl⟩

/-- **One place in two texts** that are the same elsewhere. Where the shape reads the texts, the
    target reads an array or an object in each of them: in an item of a list, in a field of a
    record, or deeper. -/
inductive Shape.Place {β : Type} (target : Shape β) (part part' : Bytes) :
    {α : Type} → Shape α → Bytes → Bytes → Prop where
  | here (opens : Opens part) (opens' : Opens part') : Place target part part' target part part'
  | option {α : Type} {item : Shape α} {text text' : Bytes}
      (h : Place target part part' item text text') :
      Place target part part' (.option item) text text'
  | item {α : Type} {item : Shape α} {inner : Bytes} {before after : List ItemText}
      {i i' : ItemText} (blank : Blank inner) (h : Place target part part' item i.value i'.value) :
      Place target part part' (.list item) (brackets inner (before ++ i :: after))
        (brackets inner (before ++ i' :: after))
  /-- A member of a record that is an object. -/
  | member {α γ σ ρ : Type} {name : String} {doc : Option String} {fields : Fields σ ρ}
      {build : ρ → α} {parts : α → ρ} {law : ∀ a, build (parts a) = a} {note : Note γ}
      {shape : Shape γ} {inner : Bytes} {before after : List MemberText} {m m' : MemberText}
      (field : fields.Has note shape) (blank : Blank inner) (key_eq : m.key = note.key)
      (key_eq' : m'.key = note.key) (h : Place target part part' shape m.value m'.value) :
      Place target part part' (.record name doc fields build parts law)
        (braces inner (before ++ m :: after)) (braces inner (before ++ m' :: after))
  /-- An item of a record that is an array. -/
  | part {α γ σ ρ : Type} {name : String} {doc : Option String} {fields : Fields σ ρ}
      {build : ρ → α} {parts : α → ρ} {law : ∀ a, build (parts a) = a} {shape : Shape γ}
      {inner : Bytes} {before after : List ItemText} {i i' : ItemText}
      (field : fields.Nth shape before.length) (blank : Blank inner)
      (h : Place target part part' shape i.value i'.value) :
      Place target part part' (.record name doc fields build parts law)
        (brackets inner (before ++ i :: after)) (brackets inner (before ++ i' :: after))

/-- **A change at any place**: in a text that the shape reads, the members of a record change that
    is an object. -/
inductive Shape.Within
    (change : (σ ρ : Type) → Fields σ ρ → List MemberText → List MemberText → Prop) {α : Type}
    (shape : Shape α) (text text' : Bytes) : Prop where
  | record {β σ ρ : Type} {name : String} {doc : Option String} {fields : Fields σ ρ}
      {build : ρ → β} {parts : β → ρ} {law : ∀ b, build (parts b) = b} {inner : Bytes}
      {members members' : List MemberText} (blank : Blank inner)
      (h : change σ ρ fields members members')
      (place : (Shape.record name doc fields build parts law).Place (braces inner members)
        (braces inner members') shape text text')

section Places

variable {α : Type} {shape : Shape α} {text text' : Bytes} {depth : Nat}

/-- Where a text opens with a bracket, there is room for it. -/
theorem Opens.exists_depth (h : Opens text) {a : α}
    (hspells : Spells (fun fuel => shape.read fuel depth) text a) : ∃ d, depth = d + 1 := by
  obtain ⟨b, more, rfl, hb⟩ := h
  exact shape.exists_depth hb hspells

/-- Texts that begin with brackets are compared where one may be opened. -/
theorem spells_iff_of_succ (h : Opens text) (h' : Opens text')
    (hsucc : ∀ d a, Spells (fun fuel => shape.read fuel (d + 1)) text a ↔
      Spells (fun fuel => shape.read fuel (d + 1)) text' a) (a : α) :
    Spells (fun fuel => shape.read fuel depth) text a ↔
      Spells (fun fuel => shape.read fuel depth) text' a := by
  constructor
  · intro hspells
    obtain ⟨d, rfl⟩ := h.exists_depth hspells
    exact (hsucc d a).mp hspells
  · intro hspells
    obtain ⟨d, rfl⟩ := h'.exists_depth hspells
    exact (hsucc d a).mpr hspells

/-- No bracket is a `null`. -/
theorem Opens.spells_some_iff {item : Shape α} (h : Opens text) {field : Option α} :
    Spells (fun fuel => (Shape.option item).read fuel depth) text field ↔
      ∃ a, field = some a ∧ Spells (fun fuel => item.read fuel depth) text a := by
  obtain ⟨b, more, rfl, hb⟩ := h
  rcases hb with rfl | rfl
  · exact Shape.spells_some_iff (by decide) (by decide)
  · exact Shape.spells_some_iff (by decide) (by decide)

/-- A list with an item at a place. By induction on the items before it. -/
theorem forall₂_append_cons_iff {β γ : Type} {r : β → γ → Prop} {before after : List β} {b : β}
    {cs : List γ} :
    List.Forall₂ r (before ++ b :: after) cs ↔ ∃ before' c after', cs = before' ++ c :: after' ∧
      List.Forall₂ r before before' ∧ r b c ∧ List.Forall₂ r after after' := by
  induction before generalizing cs with
  | nil =>
    -- Nothing stands before, so that the first element is the one at the place.
    constructor
    · intro h
      obtain ⟨c, after', hc, hafter, rfl⟩ := List.forall₂_cons_left_iff.mp h
      exact ⟨[], c, after', rfl, .nil, hc, hafter⟩
    · rintro ⟨before', c, after', rfl, hbefore, hc, hafter⟩
      cases hbefore
      exact .cons hc hafter
  | cons first before ih =>
    constructor
    · intro h
      obtain ⟨c, rest, hc, hrest, rfl⟩ := List.forall₂_cons_left_iff.mp h
      obtain ⟨before', c', after', rfl, hbefore, hc', hafter⟩ := ih.mp hrest
      exact ⟨c :: before', c', after', rfl, .cons hc hbefore, hc', hafter⟩
    · rintro ⟨before', c, after', rfl, hbefore, hc, hafter⟩
      cases hbefore with
      | cons hfirst hbefore => exact .cons hfirst (ih.mpr ⟨_, _, _, rfl, hbefore, hc, hafter⟩)

section Parts

variable {σ ρ : Type} {fields : Fields σ ρ} {n : Nat} {before after : List Bytes}
  {value value' : Bytes} {parts : ρ}

/-- Where arrays differ in one value only, it is all that counts what it spells to its field. By
    induction on the place. -/
theorem Fields.Nth.lists_iff (h : fields.Nth shape n) (hn : before.length = n)
    (hown : ∀ a, Spells (fun fuel => shape.read fuel depth) value a ↔
      Spells (fun fuel => shape.read fuel depth) value' a) :
    fields.Lists depth (before ++ value :: after) parts ↔
      fields.Lists depth (before ++ value' :: after) parts := by
  induction h generalizing before with
  | zero =>
    obtain rfl := List.length_eq_zero_iff.mp hn
    exact and_congr_left' (hown _)
  | succ _ ih =>
    obtain ⟨first, before, rfl⟩ := List.exists_cons_of_length_eq_add_one hn
    exact and_congr_right' (ih (Nat.succ.inj hn))

/-- The value at the place of a field spells something to it. -/
theorem Fields.Nth.exists_spells (h : fields.Nth shape n) (hn : before.length = n)
    (hlists : fields.Lists depth (before ++ value :: after) parts) :
    ∃ a, Spells (fun fuel => shape.read fuel depth) value a := by
  induction h generalizing before with
  | zero =>
    obtain rfl := List.length_eq_zero_iff.mp hn
    exact ⟨parts.1, hlists.1⟩
  | succ _ ih =>
    obtain ⟨first, before, rfl⟩ := List.exists_cons_of_length_eq_add_one hn
    exact ih (Nat.succ.inj hn) hlists.2

end Parts

end Places

namespace Shape.Place

variable {α β : Type} {target : Shape β} {part part' : Bytes} {shape : Shape α} {text text' : Bytes}
  {depth : Nat}

/-- The texts around a place open with brackets. -/
theorem opens (h : target.Place part part' shape text text') : Opens text ∧ Opens text' := by
  induction h with
  | here opens opens' => exact ⟨opens, opens'⟩
  | option _ ih => exact ih
  | item => exact ⟨opens_brackets _ _, opens_brackets _ _⟩
  | member => exact ⟨opens_braces _ _, opens_braces _ _⟩
  | part => exact ⟨opens_brackets _ _, opens_brackets _ _⟩

/-- A place is the same from either side. -/
theorem symm (h : target.Place part part' shape text text') :
    target.Place part' part shape text' text := by
  induction h with
  | here opens opens' => exact .here opens' opens
  | option _ ih => exact .option ih
  | item blank _ ih => exact .item blank ih
  | member field blank key_eq key_eq' _ ih => exact .member field blank key_eq' key_eq ih
  | part field blank _ ih => exact .part field blank ih

/-- A part of a nullable shape is nullable. -/
theorem nullable (h : target.Place part part' shape text text') (hnullable : shape.Nullable) :
    target.Nullable := by
  induction h with
  | here => exact hnullable
  | option _ ih => exact ih hnullable
  | item _ _ ih => exact ih hnullable
  | member field _ _ _ _ ih => exact ih (field.nullable hnullable).2
  | part field _ _ ih => exact ih (field.nullable hnullable)

/-- **What is read of the texts** is the same if it is the same for the parts. By induction on the
    way to the place. -/
theorem spells_iff (h : target.Place part part' shape text text')
    (hparts : ∀ depth b, Spells (fun fuel => target.read fuel depth) part b ↔
      Spells (fun fuel => target.read fuel depth) part' b) (depth : Nat) (a : α) :
    Spells (fun fuel => shape.read fuel depth) text a ↔
      Spells (fun fuel => shape.read fuel depth) text' a := by
  have hopens := h.opens
  induction h generalizing depth with
  | here => exact hparts depth a
  | option _ ih =>
    rw [hopens.1.spells_some_iff, hopens.2.spells_some_iff]
    simp only [ih depth _ hopens]
  | item blank h ih =>
    refine spells_iff_of_succ hopens.1 hopens.2 (fun d as => ?_) a
    have hitem (a : _) := ih d a h.opens
    simp only [Shape.spells_list_iff blank, List.map_append, List.map_cons, forall₂_append_cons_iff,
      hitem]
  | @member α γ σ ρ name doc fields build parts law note shape inner before after m m' field blank
      key_eq key_eq' h ih =>
    refine spells_iff_of_succ hopens.1 hopens.2 (fun d a => ?_) a
    have hvalue (b : γ) := ih d b h.opens
    -- The members besides this one are the same, and its value is what the field asks for.
    have hgives (values : ρ) :
        fields.Gives d ((before ++ m :: after).map MemberText.pair) values ↔
          fields.Gives d ((before ++ m' :: after).map MemberText.pair) values := by
      refine field.gives_iff ?_ fun b => ?_
      · rw [without_member key_eq, without_member key_eq']
      · rw [valuesOf_member key_eq, valuesOf_member key_eq', Note.gives_append_cons_iff,
          Note.gives_append_cons_iff]
        simp only [hvalue]
    simp only [Shape.spells_object_iff blank, hgives]
  | @part α γ σ ρ name doc fields build parts law shape inner before after i i' field blank h ih =>
    refine spells_iff_of_succ hopens.1 hopens.2 (fun d a => ?_) a
    -- The other items are the same, and stand in the same places.
    have hlists (values : ρ) :
        fields.Lists d ((before ++ i :: after).map ItemText.value) values ↔
          fields.Lists d ((before ++ i' :: after).map ItemText.value) values := by
      rw [List.map_append, List.map_append, List.map_cons, List.map_cons]
      exact field.lists_iff (List.length_map _) fun b => ih d b h.opens
    simp only [Shape.spells_array_iff blank, hlists]

/-- **A part of a text that is read** is read. By induction on the way to the place. -/
theorem exists_spells (h : target.Place part part' shape text text') {a : α}
    (hspells : Spells (fun fuel => shape.read fuel depth) text a) :
    ∃ d b, Spells (fun fuel => target.read fuel d) part b := by
  have hopens := h.opens.1
  -- The text around the part spells a value, and so do the texts between the two.
  induction h generalizing depth with
  | here => exact ⟨depth, a, hspells⟩
  | option _ ih =>
    obtain ⟨b, -, hb⟩ := hopens.spells_some_iff.mp hspells
    exact ih hb hopens
  | item blank h ih =>
    obtain ⟨d, rfl⟩ := hopens.exists_depth hspells
    have hlist := (Shape.spells_list_iff blank).mp hspells
    rw [List.map_append, List.map_cons] at hlist
    obtain ⟨-, b, -, -, -, hb, -⟩ := forall₂_append_cons_iff.mp hlist
    exact ih hb h.opens.1
  | member field blank key_eq _ h ih =>
    obtain ⟨d, rfl⟩ := hopens.exists_depth hspells
    obtain ⟨values, hgives, -⟩ := (Shape.spells_object_iff blank).mp hspells
    obtain ⟨b, hb⟩ := field.exists_gives hgives
    rw [valuesOf_member key_eq, Note.gives_append_cons_iff] at hb
    exact ih hb.2.2 h.opens.1
  | part field blank h ih =>
    obtain ⟨d, rfl⟩ := hopens.exists_depth hspells
    obtain ⟨values, hlists, -⟩ := (Shape.spells_array_iff blank).mp hspells
    rw [List.map_append, List.map_cons] at hlists
    obtain ⟨b, hb⟩ := field.exists_spells (List.length_map _) hlists
    exact ih hb h.opens.1

/-- The texts are UTF-8 if the parts are. -/
theorem valid_iff (h : target.Place part part' shape text text')
    (hparts : Valid part ↔ Valid part') : Valid text ↔ Valid text' := by
  induction h with
  | here => exact hparts
  -- White space, commas and brackets are ASCII, and the texts beside the part are the same.
  | option _ ih => exact ih
  | item blank _ ih =>
    rw [valid_brackets_iff blank, valid_brackets_iff blank]
    simp only [List.forall_mem_append, List.forall_mem_cons, ih]
  | member _ blank _ _ _ ih =>
    rw [valid_braces_iff blank, valid_braces_iff blank]
    simp only [List.forall_mem_append, List.forall_mem_cons, ih]
  | part _ blank _ ih =>
    rw [valid_brackets_iff blank, valid_brackets_iff blank]
    simp only [List.forall_mem_append, List.forall_mem_cons, ih]

/-- An object in a text that is read has members. -/
theorem exists_braces {more : Bytes} (h : target.Place (0x7B :: more) part' shape text text')
    {a : α}
    (hspells : Spells (fun fuel => shape.read fuel depth) text a) :
    ∃ inner members, Blank inner ∧ 0x7B :: more = braces inner members := by
  obtain ⟨d, b, hb⟩ := h.exists_spells hspells
  obtain ⟨d, rfl⟩ := target.exists_depth (.inr rfl) hb
  exact target.exists_braces hb

end Shape.Place

/-! ### Changes at a place -/

namespace Shape.Within

variable {α : Type} {shape : Shape α} {text text' : Bytes}

/-- A change of the outermost record. -/
theorem here {change : (σ ρ : Type) → Fields σ ρ → List MemberText → List MemberText → Prop}
    {σ ρ : Type} {name : String} {doc : Option String} {fields : Fields σ ρ} {build : ρ → α}
    {parts : α → ρ} {law : ∀ a, build (parts a) = a} {inner : Bytes}
    {members members' : List MemberText} (blank : Blank inner)
    (h : change σ ρ fields members members') :
    (Shape.record name doc fields build parts law).Within change (braces inner members)
      (braces inner members') :=
  .record blank h (.here (opens_braces _ _) (opens_braces _ _))

/-- **What is read stays** when a record changes in a harmless way. -/
theorem spells_iff (h : shape.Within @Fields.Harmless text text') (hnullable : shape.Nullable)
    (depth : Nat) (a : α) :
    Spells (fun fuel => shape.read fuel depth) text a ↔
      Spells (fun fuel => shape.read fuel depth) text' a := by
  obtain ⟨blank, hharmless, place⟩ := h
  refine place.spells_iff (fun depth b => ?_) depth a
  refine spells_iff_of_succ (opens_braces _ _) (opens_braces _ _) (fun d b => ?_) b
  simp only [Shape.spells_object_iff blank, hharmless.gives_iff (place.nullable hnullable)]

/-- A text stays UTF-8 when a record changes in a harmless way. -/
theorem valid_iff (h : shape.Within @Fields.Harmless text text') : Valid text ↔ Valid text' := by
  obtain ⟨blank, hharmless, place⟩ := h
  refine place.valid_iff ?_
  rw [valid_braces_iff blank, valid_braces_iff blank]
  exact hharmless.valid_iff

/-- **Nothing is read** when a record is spoiled somewhere in a text that is read, for the record
    would be read before and after. -/
theorem not_spells (h : shape.Within @Fields.Fatal text text') {depth : Nat} {a a' : α}
    (hspells : Spells (fun fuel => shape.read fuel depth) text a) :
    ¬Spells (fun fuel => shape.read fuel depth) text' a' := by
  intro hspells'
  obtain ⟨blank, hfatal, place⟩ := h
  obtain ⟨d, b, hb⟩ := place.exists_spells hspells
  obtain ⟨d', b', hb'⟩ := place.symm.exists_spells hspells'
  obtain ⟨d, rfl⟩ := (opens_braces _ _).exists_depth hb
  obtain ⟨d', rfl⟩ := (opens_braces _ _).exists_depth hb'
  obtain ⟨values, hgives, -⟩ := (Shape.spells_object_iff blank).mp hb
  obtain ⟨values', hgives', -⟩ := (Shape.spells_object_iff blank).mp hb'
  exact hfatal.not_gives hgives hgives'

end Shape.Within

/-! ### Documents -/

/-- **What a local reader takes of a document** is what its value spells. -/
theorem Local.readDocument_iff {α : Type} {read : Nat → Nat → Bytes → Read α}
    (hlocal : Local fun fuel => read fuel maxDepth) (d : ItemText) {a : α} :
    readDocument read d.text = .ok a ↔ Spells (fun fuel => read fuel maxDepth) d.value a := by
  -- White space ends a number.
  have hends {blank : Bytes} (h : Blank blank) : EndsNumber blank := by
    simpa using h.endsNumber endsNumber_nil
  rw [readDocument_eq_ok_iff, ItemText.text, hlocal.blank _ d.lead_blank]
  constructor
  · rintro ⟨rest, hread, hrest⟩
    obtain ⟨value, htext, hspells, hvalue⟩ := hlocal.extent hread
    obtain ⟨rfl, -⟩ := d.isValue.eq_of_append hvalue (hends d.trail_blank) (hends hrest) htext
    exact hspells
  · intro hspells
    refine ⟨d.trail, hspells _ ?_ _ (hends d.trail_blank), d.trail_blank⟩
    simp only [fuelFor, List.length_append]
    omega

section Documents

variable {α : Type} {shape : Shape α} {text text' bs bs' : Bytes}

/-- Two texts of one value between which there are any number of changes: white space between tokens
    comes and goes, and records change in harmless ways. -/
def Shape.Rewrites (shape : Shape α) : Bytes → Bytes → Prop :=
  Relation.EqvGen fun text text' => Respaced text text' ∨ shape.Within @Fields.Harmless text text'

/-- **Documents that vary**: they are texts of one value, with any white space around it. -/
def Shape.Varies (shape : Shape α) (bs bs' : Bytes) : Prop :=
  ∃ d d' : ItemText, d.text = bs ∧ d'.text = bs' ∧ shape.Rewrites d.value d'.value

/-- **A document that is spoiled**: a record in it changes in a fatal way. -/
def Shape.Spoils (shape : Shape α) (bs bs' : Bytes) : Prop :=
  ∃ d d' : ItemText, d.text = bs ∧ d'.text = bs' ∧ shape.Within @Fields.Fatal d.value d'.value

/-- Records are read by name: the objects in a document that is read have members, a document is
    read as every other that varies from it, and a document that was read is not read once it is
    spoiled. -/
structure Shape.ByName (shape : Shape α) : Prop where
  written : ∀ {bs a}, shape.ofBytes bs = .ok a → ∃ d : ItemText, d.text = bs ∧
    ∀ {β : Type} {target : Shape β} {more : Bytes},
      target.Place (0x7B :: more) (0x7B :: more) shape d.value d.value →
      ∃ inner members, Blank inner ∧ 0x7B :: more = braces inner members
  varies : ∀ {bs bs'}, shape.Varies bs bs' → ∀ a,
    shape.ofBytes bs = .ok a ↔ shape.ofBytes bs' = .ok a
  spoils : ∀ {bs bs'}, shape.Spoils bs bs' → ∀ {a}, shape.ofBytes bs = .ok a →
    ∃ failure, shape.ofBytes bs' = .error failure

/-- A text that was respaced spells the same. -/
theorem Respaced.spells_iff (h : Respaced text text') (depth : Nat) (a : α) :
    Spells (fun fuel => shape.read fuel depth) text a ↔
      Spells (fun fuel => shape.read fuel depth) text' a :=
  ⟨shape.blind depth h, shape.blind depth h.symm⟩

/-- By induction on the changes. -/
theorem Shape.Rewrites.spells_iff (h : shape.Rewrites text text') (hnullable : shape.Nullable)
    (depth : Nat) (a : α) :
    Spells (fun fuel => shape.read fuel depth) text a ↔
      Spells (fun fuel => shape.read fuel depth) text' a := by
  induction h with
  | rel text text' h =>
    rcases h with hrespaced | hwithin
    · exact hrespaced.spells_iff depth a
    · exact hwithin.spells_iff hnullable depth a
  | refl text => exact Iff.rfl
  | symm text text' _ ih => exact ih.symm
  | trans text₁ text₂ text₃ _ _ ih ih' => exact ih.trans ih'

/-- Texts that are rewritten stay well-formed. -/
theorem Shape.Rewrites.valid_iff (h : shape.Rewrites text text') : Valid text ↔ Valid text' := by
  induction h with
  | rel text text' h =>
    rcases h with hrespaced | hwithin
    · exact ⟨hrespaced.valid, hrespaced.symm.valid⟩
    · exact hwithin.valid_iff
  | refl text => exact Iff.rfl
  | symm text text' _ ih => exact ih.symm
  | trans text₁ text₂ text₃ _ _ ih ih' => exact ih.trans ih'

/-- A document that varies stays UTF-8. -/
theorem Shape.Varies.valid_iff (h : shape.Varies bs bs') : Valid bs ↔ Valid bs' := by
  obtain ⟨d, d', rfl, rfl, hrewrites⟩ := h
  rw [d.valid_text_iff, d'.valid_text_iff]
  exact hrewrites.valid_iff

/-- A document that is read has a value. -/
theorem Shape.exists_document {a : α} (hread : shape.ofBytes bs = .ok a) :
    ∃ d : ItemText, d.text = bs ∧ Spells (fun fuel => shape.read fuel maxDepth) d.value a := by
  have hlocal := shape.read_local maxDepth
  obtain ⟨trail, hvalue, htrail⟩ := readDocument_eq_ok_iff.mp hread
  obtain ⟨lead, hlead, hbs, hflush⟩ := exists_blank bs
  rw [hbs, hlocal.blank _ hlead] at hvalue
  obtain ⟨text, htext, hspells, hisValue⟩ := hlocal.extent hvalue
  rw [htext, flush_append_iff hisValue.ne_nil] at hflush
  exact ⟨⟨lead, text, trail, hlead, hflush, hisValue.passes, htrail⟩, by rw [hbs, htext]; rfl,
    hspells⟩

/-- **Records are read by name**, at every depth. -/
theorem Shape.byName (hnullable : shape.Nullable) : shape.ByName where
  written := by
    intro bs a hread
    -- A record was read from the text, and so something was read from each part.
    obtain ⟨d, htext, hspells⟩ := exists_document hread
    exact ⟨d, htext, fun place => place.exists_braces hspells⟩
  varies := by
    rintro bs bs' ⟨d, d', rfl, rfl, hrewrites⟩ a
    have hlocal := shape.read_local maxDepth
    rw [Shape.ofBytes, Shape.ofBytes, hlocal.readDocument_iff, hlocal.readDocument_iff]
    exact hrewrites.spells_iff hnullable maxDepth a
  spoils := by
    rintro bs bs' ⟨d, d', rfl, rfl, hwithin⟩ a hread
    have hlocal := shape.read_local maxDepth
    cases hspoiled : shape.ofBytes d'.text with
    | error failure => exact ⟨failure, rfl⟩
    | ok a' =>
      rw [Shape.ofBytes, hlocal.readDocument_iff] at hread hspoiled
      exact absurd hspoiled (hwithin.not_spells hread)

end Documents

end DialogStub.Json
