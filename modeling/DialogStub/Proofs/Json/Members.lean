import DialogStub.Proofs.Json.Commas
import DialogStub.Proofs.Json.Starts

/-!
# The members of an object as they are written

* `Json.MemberText` — the parts of which a member is written;
* `Json.Assigns` — what a reader of members makes of the text of a value, whatever follows it;
* `Json.Runs` — members that a reader takes one after the other;
* `Json.readMembers_text`, `Json.readMembers_object` — members that a reader takes are read up to
  the end of their object;
* `Json.exists_text_of_readMembers` — whatever is read as members is written in this way;
* `Json.KeyedText`, `Json.scans_keyedText` — members as the scanner sees them, which it passes over.

A reader of members gets a key and the bytes behind it, so that only the key and the text of its
value matter for what is read, and white space does not.
-/

namespace DialogStub.Json

/-! ### Texts of members -/

/-- The parts of which a member is written: its key between quotes, a colon and its value, with
    white space between them. The spelling of the key goes up to its closing quote. -/
structure MemberText where
  key : String
  lead : Bytes
  spelling : Bytes
  gap : Bytes
  indent : Bytes
  value : Bytes
  trail : Bytes
  lead_blank : Blank lead
  spelling_reads : readString spelling = .ok (key, [])
  gap_blank : Blank gap
  indent_blank : Blank indent
  value_flush : Flush value
  value_passes : skipValue (fuelFor value) value = .ok []
  trail_blank : Blank trail

namespace MemberText

/-- The text of a member. -/
def text (m : MemberText) : Bytes :=
  m.lead ++ 0x22 :: (m.spelling ++ (m.gap ++ 0x3A :: (m.indent ++ (m.value ++ m.trail))))

/-- The key of a member with the text of its value. -/
def pair (m : MemberText) : String × Bytes :=
  (m.key, m.value)

theorem text_append (m : MemberText) (rest : Bytes) : m.text ++ rest = m.lead ++ 0x22 ::
    (m.spelling ++ (m.gap ++ 0x3A :: (m.indent ++ (m.value ++ (m.trail ++ rest))))) := by
  simp [text]

/-- The key of a member is read up to its quote. -/
theorem readString_spelling (m : MemberText) (tail : Bytes) :
    readString (m.spelling ++ tail) = .ok (m.key, tail) := by
  obtain ⟨used, heq, hread, -⟩ := readString_extent m.spelling_reads
  rw [List.append_nil] at heq
  rw [heq]
  exact hread tail

/-- The key of a member is passed over up to its quote. -/
theorem skipString_spelling (m : MemberText) (tail : Bytes) :
    skipString .plain (m.spelling ++ tail) = .ok tail := by
  obtain ⟨used, heq, -, hskip⟩ := readString_extent m.spelling_reads
  rw [List.append_nil] at heq
  rw [heq]
  exact hskip tail

end MemberText

/-- A text that is passed over as a whole is one value. -/
theorem isValue_of_passes {value : Bytes} (h : skipValue (fuelFor value) value = .ok []) :
    IsValue value := by
  obtain ⟨used, heq, hvalue⟩ := exists_isValue h
  rw [List.append_nil] at heq
  rwa [heq]

/-- One value is passed over as a whole. -/
theorem IsValue.passes {value : Bytes} (h : IsValue value) :
    Json.skipValue (fuelFor value) value = .ok [] := by
  have hskip := h.skipValue (Nat.le_refl _) [] endsNumber_nil
  rwa [List.append_nil] at hskip

theorem MemberText.isValue (m : MemberText) : IsValue m.value :=
  isValue_of_passes m.value_passes

/-- The text behind a member: the members that follow, each behind a comma, and the end. -/
def afterText (members : List MemberText) (rest : Bytes) : Bytes :=
  members.flatMap (fun m => 0x2C :: m.text) ++ 0x7D :: rest

/-- The text between the brackets of an object, and its end. -/
def membersText (members : List MemberText) (rest : Bytes) : Bytes :=
  commaSeparated (members.map MemberText.text) ++ 0x7D :: rest

theorem afterText_eq (members : List MemberText) (rest : Bytes) :
    afterText members rest = behindCommas 0x7D (members.map MemberText.text) rest := by
  rw [behindCommas, List.flatMap_map, afterText]

theorem membersText_cons (m : MemberText) (members : List MemberText) (rest : Bytes) :
    membersText (m :: members) rest = m.text ++ afterText members rest := by
  rw [membersText, List.map_cons, commaSeparated_append_close, afterText_eq]

theorem afterText_cons (m : MemberText) (members : List MemberText) (rest : Bytes) :
    afterText (m :: members) rest = 0x2C :: (m.text ++ afterText members rest) := by
  rw [afterText_eq, List.map_cons, behindCommas_cons, ← afterText_eq]

/-- A number may end where the next members begin. -/
theorem endsNumber_afterText (members : List MemberText) (rest : Bytes) :
    EndsNumber (afterText members rest) := by
  rw [afterText_eq]
  exact endsNumber_behindCommas (.inr rfl) _ rest

/-- A member is longer than its value. -/
theorem MemberText.length_value_lt (m : MemberText) : m.value.length < m.text.length := by
  simp only [text, List.length_append, List.length_cons]
  omega

/-- The text of an object is as long as its members are many, and longer than any of their
    values. -/
theorem length_membersText (members : List MemberText) (rest : Bytes) :
    members.length ≤ (membersText members rest).length ∧
      ∀ m ∈ members, m.value.length < (membersText members rest).length := by
  obtain ⟨hcount, htexts⟩ :=
    @length_commaSeparated_close 0x7D (members.map MemberText.text) rest
  rw [List.length_map] at hcount
  exact ⟨hcount, fun m hm =>
    Nat.lt_trans m.length_value_lt (htexts m.text (List.mem_map_of_mem hm))⟩

/-! ### Readers of members -/

section Readers

variable {σ : Type} {member : Nat → String → σ → Bytes → Read σ}

/-- A reader of members goes from one state to another with the text of a value, whatever white
    space is around the colon and whatever stands behind. -/
def Assigns (member : Nat → String → σ → Bytes → Read σ) (key : String) (state : σ)
    (value : Bytes) (next : σ) : Prop :=
  ∀ fuel gap indent tail, fuelFor value ≤ fuel → Blank gap → Blank indent → EndsNumber tail →
    member fuel key state (gap ++ 0x3A :: (indent ++ (value ++ tail))) = .ok (next, tail)

/-- Whatever such a reader takes is a colon with a value, and it would take it again. -/
def LocalMember (member : Nat → String → σ → Bytes → Read σ) : Prop :=
  ∀ fuel key state bs next rest, member fuel key state bs = .ok (next, rest) →
    ∃ gap indent value, Blank gap ∧ Blank indent ∧
      bs = gap ++ 0x3A :: (indent ++ (value ++ rest)) ∧ IsValue value ∧ Flush value ∧
      Assigns member key state value next

/-- Members that a reader takes one after the other. -/
inductive Runs (member : Nat → String → σ → Bytes → Read σ) :
    σ → List (String × Bytes) → σ → Prop where
  | nil (state : σ) : Runs member state [] state
  | cons {state next last : σ} {key : String} {value : Bytes} {members : List (String × Bytes)}
      (h : Assigns member key state value next) (rest : Runs member next members last) :
      Runs member state ((key, value) :: members) last

/-- A member is read behind its opening quote. -/
theorem readMembers_step {m : MemberText} {fuel loop : Nat} {first : Bool} {state next : σ}
    {bs rest : Bytes} (hfuel : fuelFor m.value ≤ fuel)
    (h : Assigns member m.key state m.value next) (hrest : EndsNumber (m.trail ++ rest))
    (hnext : nextMember first bs
      = .ok (some
        (m.spelling ++ (m.gap ++ 0x3A :: (m.indent ++ (m.value ++ (m.trail ++ rest))))))) :
    readMembers (member fuel) (loop + 1) first state bs
      = readMembers (member fuel) loop false next (m.trail ++ rest) := by
  rw [readMembers, hnext]
  dsimp only
  rw [m.readString_spelling]
  dsimp only
  rw [h fuel m.gap m.indent _ hfuel m.gap_blank m.indent_blank hrest]

/-- The first member begins behind the brace. -/
theorem nextMember_first {inner : Bytes} (hinner : Blank inner) (m : MemberText) (rest : Bytes) :
    nextMember true (inner ++ (m.text ++ rest)) = .ok (some
      (m.spelling ++ (m.gap ++ 0x3A :: (m.indent ++ (m.value ++ (m.trail ++ rest)))))) := by
  rw [m.text_append, nextMember, skipBlank_append hinner,
    skipBlank_append_cons m.lead_blank (by decide)]
  rfl

/-- Each other member begins behind a comma. -/
theorem nextMember_comma {trail : Bytes} (htrail : Blank trail) (m : MemberText) (rest : Bytes) :
    nextMember false (trail ++ 0x2C :: (m.text ++ rest)) = .ok (some
      (m.spelling ++ (m.gap ++ 0x3A :: (m.indent ++ (m.value ++ (m.trail ++ rest)))))) := by
  rw [m.text_append, nextMember, skipBlank_append_cons htrail (by decide)]
  dsimp only
  rw [if_neg (by decide), if_neg (by decide), if_pos rfl,
    skipBlank_append_cons m.lead_blank (by decide)]
  rfl

/-- There is no member before the brace that closes. -/
theorem nextMember_end {first : Bool} {blank : Bytes} (h : Blank blank) (rest : Bytes) :
    nextMember first (blank ++ 0x7D :: rest) = .ok none := by
  rw [nextMember, skipBlank_append_cons h (by decide)]
  rfl

/-- The members end at their brace. -/
theorem readMembers_end {fuel loop : Nat} {first : Bool} (state : σ) {blank : Bytes}
    (h : Blank blank) (rest : Bytes) :
    readMembers (member fuel) (loop + 1) first state (blank ++ 0x7D :: rest)
      = .ok (state, rest) := by
  rw [readMembers, nextMember_end h]
  dsimp only
  rw [skipBlank_append_cons h (by decide)]
  rfl

/-- By induction on the members that are left. -/
theorem readMembers_after {fuel loop : Nat} {state last : σ} {members : List MemberText}
    (h : Runs member state (members.map MemberText.pair) last)
    (hfuel : ∀ m ∈ members, fuelFor m.value ≤ fuel) (hloop : members.length < loop)
    {trail : Bytes} (htrail : Blank trail) (rest : Bytes) :
    readMembers (member fuel) loop false state (trail ++ afterText members rest)
      = .ok (last, rest) := by
  induction members generalizing loop state trail with
  | nil =>
    obtain ⟨n, rfl⟩ := Nat.exists_eq_add_one.mpr (Nat.zero_lt_of_lt hloop)
    cases h
    exact readMembers_end _ htrail rest
  | cons m members ih =>
    obtain ⟨n, rfl⟩ := Nat.exists_eq_add_one.mpr (Nat.zero_lt_of_lt hloop)
    obtain ⟨hm, hmembers⟩ := List.forall_mem_cons.mp hfuel
    -- The member is the next one of the run, so one step reads it and the others follow.
    cases h with
    | cons hassigns hruns =>
      have hends := m.trail_blank.endsNumber (endsNumber_afterText members rest)
      rw [afterText_cons, readMembers_step hm hassigns hends (nextMember_comma htrail m _)]
      exact ih hruns hmembers (by simp at hloop; omega) m.trail_blank

/-- **Members that a reader takes** are read up to the end of their object. -/
theorem readMembers_text {fuel loop : Nat} {state last : σ} {members : List MemberText}
    (h : Runs member state (members.map MemberText.pair) last)
    (hfuel : ∀ m ∈ members, fuelFor m.value ≤ fuel) (hloop : members.length < loop)
    {inner : Bytes} (hinner : Blank inner) (rest : Bytes) :
    readMembers (member fuel) loop true state (inner ++ membersText members rest)
      = .ok (last, rest) := by
  obtain ⟨n, rfl⟩ := Nat.exists_eq_add_one.mpr (Nat.zero_lt_of_lt hloop)
  -- The first member has no comma before it; those behind it are read by the lemma above.
  cases members with
  | nil =>
    cases h
    exact readMembers_end _ hinner rest
  | cons m members =>
    obtain ⟨hm, hmembers⟩ := List.forall_mem_cons.mp hfuel
    cases h with
    | cons hassigns hruns =>
      have hends := m.trail_blank.endsNumber (endsNumber_afterText members rest)
      rw [membersText_cons, readMembers_step hm hassigns hends (nextMember_first hinner m _)]
      exact readMembers_after hruns hmembers (by simp at hloop; omega) m.trail_blank rest

/-- The fuel for the text of an object is enough for its members. -/
theorem readMembers_object {fuel : Nat} {state last : σ} {members : List MemberText}
    (h : Runs member state (members.map MemberText.pair) last) {inner after : Bytes}
    (hinner : Blank inner) (hfuel : fuelFor (0x7B :: (inner ++ membersText members after)) ≤ fuel)
    (rest : Bytes) :
    readMembers (member fuel) fuel true state (inner ++ membersText members rest)
      = .ok (last, rest) := by
  obtain ⟨hcount, hvalues⟩ := length_membersText members after
  simp only [fuelFor, List.length_cons, List.length_append] at hfuel
  refine readMembers_text h (fun m hm => ?_) (by omega) hinner rest
  have := hvalues m hm
  unfold fuelFor
  omega

/-! ### All that is read as members -/

/-- What comes next: the end of the object, or a member behind its opening quote. -/
theorem nextMember_extent {first : Bool} {bs : Bytes} {next : Option Bytes}
    (h : nextMember first bs = .ok next) :
    (next = none ∧ ∃ blank, Blank blank ∧ bs = blank ++ 0x7D :: (skipBlank bs).tail) ∨
    ∃ more, next = some more ∧ ∃ front lead, Blank lead ∧ bs = front ++ (lead ++ 0x22 :: more) ∧
      (if first then front = [] else ∃ trail, Blank trail ∧ front = trail ++ [0x2C]) := by
  unfold nextMember at h
  split at h
  · cases h
  rename_i b rest hblank
  obtain ⟨blank, hblanks, heq, -⟩ := eq_append_of_skipBlank hblank
  by_cases hclose : b = 0x7D
  · subst hclose
    cases h
    exact .inl ⟨rfl, blank, hblanks, by rw [hblank]; exact heq⟩
  rw [if_neg hclose] at h
  -- The first member stands behind white space only, another one behind a comma as well.
  cases first with
  | true =>
    rw [if_pos rfl] at h
    split at h
    · rename_i hquote
      subst hquote
      cases h
      exact .inr ⟨rest, rfl, [], blank, hblanks, heq, rfl⟩
    · cases h
  | false =>
    rw [if_neg (by decide)] at h
    split at h
    · rename_i hcomma
      subst hcomma
      split at h
      · cases h
      rename_i c more hblank'
      obtain ⟨lead, hlead, rfl, -⟩ := eq_append_of_skipBlank hblank'
      split at h
      · rename_i hquote
        subst hquote
        cases h
        exact .inr ⟨more, rfl, blank ++ [0x2C], lead, hlead, by rw [heq]; simp,
          blank, hblanks, rfl⟩
      · split at h
        · cases h
        · cases h
    · cases h

/-- A member behind what leads to it is one of the members, with white space before them. -/
theorem MemberText.exists_blank {first : Bool} {front : Bytes}
    (hfront : if first then front = [] else ∃ trail, Blank trail ∧ front = trail ++ [0x2C])
    (m : MemberText) (members : List MemberText) (rest : Bytes) :
    ∃ blank, Blank blank ∧ front ++ (m.text ++ afterText members rest) =
      blank ++ (if first then membersText (m :: members) rest
        else afterText (m :: members) rest) := by
  cases first with
  | true =>
    rw [if_pos rfl] at hfront
    exact ⟨[], blank_nil, by rw [hfront, if_pos rfl, membersText_cons]⟩
  | false =>
    rw [if_neg (by decide)] at hfront
    obtain ⟨trail, htrail, rfl⟩ := hfront
    refine ⟨trail, htrail, ?_⟩
    rw [if_neg (by decide), afterText_cons]
    simp

/-- By induction on the fuel: each member is a key, a colon and a value, and the white space behind
    it belongs to it. -/
theorem exists_text_of_readMembers (hlocal : LocalMember member) {fuel loop : Nat} {first : Bool}
    {state last : σ} {bs rest : Bytes}
    (h : readMembers (member fuel) loop first state bs = .ok (last, rest)) :
    ∃ blank members, Blank blank ∧ Runs member state (members.map MemberText.pair) last ∧
      bs = blank ++ (if first then membersText members rest else afterText members rest) := by
  induction loop generalizing first state bs with
  | zero => cases h
  | succ loop ih =>
    rw [readMembers] at h
    split at h
    · cases h
    · rename_i hnext
      rcases nextMember_extent hnext with ⟨-, blank, hblank, heq⟩ | ⟨more, hmore, -⟩
      · cases h
        refine ⟨blank, [], hblank, .nil _, heq.trans ?_⟩
        cases first <;> rfl
      · cases hmore
    · rename_i more hnext
      rcases nextMember_extent hnext with
        ⟨hnone, -⟩ | ⟨more', hmore, front, lead, hlead, heq, hfront⟩
      · cases hnone
      cases hmore
      split at h
      · cases h
      rename_i key after hstring
      obtain ⟨spelling, rfl, hspelling, -⟩ := readString_extent hstring
      split at h
      · cases h
      rename_i next behind hmember
      obtain ⟨gap, indent, value, hgap, hindent, rfl, hvalue, hflush, hassigns⟩ :=
        hlocal _ _ _ _ _ _ hmember
      -- The white space with which the rest begins is that behind this member.
      obtain ⟨trail, members, htrail, hruns, rfl⟩ := ih h
      have hkey : readString spelling = .ok (key, []) := by
        have := hspelling []
        rwa [List.append_nil] at this
      let m : MemberText :=
        ⟨key, lead, spelling, gap, indent, value, trail, hlead, hkey, hgap, hindent, hflush,
          hvalue.passes, htrail⟩
      obtain ⟨blank, hblank, htext⟩ := m.exists_blank hfront members rest
      rw [m.text_append] at htext
      exact ⟨blank, m :: members, hblank, .cons hassigns hruns, heq.trans htext⟩

/-! ### One way to take members apart -/

/-- A colon is followed by the same text, whatever white space is taken to stand before it. -/
theorem eq_of_colon {gap gap' rest rest' : Bytes} (hgap : Blank gap) (hgap' : Blank gap')
    (heq : gap ++ 0x3A :: rest = gap' ++ 0x3A :: rest') : rest = rest' := by
  have h := congrArg skipBlank heq
  rw [skipBlank_append_cons hgap (by decide), skipBlank_append_cons hgap' (by decide)] at h
  exact (List.cons.inj h).2

/-- Where another member, or the end of the object, comes next, a number ends. -/
theorem endsNumber_of_nextMember {bs : Bytes} {next : Option Bytes}
    (h : nextMember false bs = .ok next) : EndsNumber bs := by
  rcases nextMember_extent h with ⟨-, blank, hblank, heq⟩ |
    ⟨more, -, front, lead, -, rfl, trail, htrail, rfl⟩
  · rw [heq]
    exact hblank.endsNumber (endsNumber_cons (by decide))
  · rw [List.append_assoc]
    exact htrail.endsNumber (endsNumber_cons (by decide))

/-- What a reader takes of a member is its value. -/
theorem LocalMember.assigns (hlocal : LocalMember member) (m : MemberText) {fuel : Nat}
    {state next : σ} {tail rest : Bytes} (htail : EndsNumber tail) (hrest : EndsNumber rest)
    (h : member fuel m.key state (m.gap ++ 0x3A :: (m.indent ++ (m.value ++ tail)))
      = .ok (next, rest)) : Assigns member m.key state m.value next ∧ rest = tail := by
  obtain ⟨gap, indent, value, hgap, hindent, heq, hvalue, hflush, hassigns⟩ :=
    hlocal _ _ _ _ _ _ h
  have hbehind := congrArg skipBlank (eq_of_colon m.gap_blank hgap heq)
  rw [((flush_append_iff m.isValue.ne_nil).mpr m.value_flush).skipBlank_append m.indent_blank,
    ((flush_append_iff hvalue.ne_nil).mpr hflush).skipBlank_append hindent] at hbehind
  obtain ⟨hsame, rfl⟩ := m.isValue.eq_of_append hvalue htail hrest hbehind
  rw [hsame]
  exact ⟨hassigns, rfl⟩

/-- What was read behind an opening quote is a member, and the members behind it. -/
theorem LocalMember.step (hlocal : LocalMember member) (m : MemberText) {fuel loop : Nat}
    {first : Bool} {state last : σ} {bs tail rest : Bytes} (htail : EndsNumber (m.trail ++ tail))
    (hnext : nextMember first bs
      = .ok (some (m.spelling ++ (m.gap ++ 0x3A :: (m.indent ++ (m.value ++ (m.trail ++ tail)))))))
    (h : readMembers (member fuel) loop first state bs = .ok (last, rest)) :
    ∃ loop' next, Assigns member m.key state m.value next ∧
      readMembers (member fuel) loop' false next (m.trail ++ tail) = .ok (last, rest) := by
  cases loop with
  | zero => cases h
  | succ loop =>
    rw [readMembers, hnext] at h
    dsimp only at h
    rw [m.readString_spelling] at h
    dsimp only at h
    split at h
    · cases h
    rename_i next behind hmember
    -- The reader goes on behind the member, so that a comma or the end is there.
    have hends : EndsNumber behind := by
      cases loop with
      | zero => cases h
      | succ loop =>
        rw [readMembers] at h
        split at h
        · cases h
        · rename_i hnext'
          exact endsNumber_of_nextMember hnext'
        · rename_i hnext'
          exact endsNumber_of_nextMember hnext'
    obtain ⟨hassigns, rfl⟩ := hlocal.assigns m htail hends hmember
    exact ⟨loop, next, hassigns, h⟩

/-- Where an object ends, its reader stops with the state that it has. -/
theorem readMembers_end_eq {fuel loop : Nat} {first : Bool} {state last : σ}
    {blank rest rest' : Bytes} (hblank : Blank blank)
    (h : readMembers (member fuel) loop first state (blank ++ 0x7D :: rest) = .ok (last, rest')) :
    last = state ∧ rest' = rest := by
  cases loop with
  | zero => cases h
  | succ loop =>
    rw [readMembers_end state hblank] at h
    cases h
    exact ⟨rfl, rfl⟩

/-- By induction on the members that are left. -/
theorem runs_of_readMembers_after (hlocal : LocalMember member) {fuel loop : Nat} {state last : σ}
    {members : List MemberText} {trail rest rest' : Bytes} (htrail : Blank trail)
    (h : readMembers (member fuel) loop false state (trail ++ afterText members rest)
      = .ok (last, rest')) :
    Runs member state (members.map MemberText.pair) last ∧ rest' = rest := by
  induction members generalizing loop state trail with
  | nil =>
    obtain ⟨rfl, rfl⟩ := readMembers_end_eq htrail h
    exact ⟨.nil _, rfl⟩
  | cons m members ih =>
    have hends := m.trail_blank.endsNumber (endsNumber_afterText members rest)
    rw [afterText_cons] at h
    -- A step that was taken is a step of the run, as the reader is local.
    obtain ⟨loop', next, hassigns, h'⟩ := hlocal.step m hends (nextMember_comma htrail m _) h
    obtain ⟨hruns, hrest⟩ := ih m.trail_blank h'
    exact ⟨.cons hassigns hruns, hrest⟩

/-- **Members that were read** are those of the text. -/
theorem runs_of_readMembers (hlocal : LocalMember member) {fuel loop : Nat} {state last : σ}
    {members : List MemberText} {inner rest rest' : Bytes} (hinner : Blank inner)
    (h : readMembers (member fuel) loop true state (inner ++ membersText members rest)
      = .ok (last, rest')) :
    Runs member state (members.map MemberText.pair) last ∧ rest' = rest := by
  cases members with
  | nil =>
    obtain ⟨rfl, rfl⟩ := readMembers_end_eq hinner h
    exact ⟨.nil _, rfl⟩
  | cons m members =>
    have hends := m.trail_blank.endsNumber (endsNumber_afterText members rest)
    rw [membersText_cons] at h
    obtain ⟨loop', next, hassigns, h'⟩ := hlocal.step m hends (nextMember_first hinner m _) h
    obtain ⟨hruns, hrest⟩ := runs_of_readMembers_after hlocal m.trail_blank h'
    exact ⟨.cons hassigns hruns, hrest⟩

end Readers

/-! ### Members that are passed over -/

/-- A member as the scanner sees it: its key goes up to a closing quote, but it need not be a
    string. -/
structure KeyedText where
  lead : Bytes
  spelling : Bytes
  gap : Bytes
  indent : Bytes
  value : Bytes
  trail : Bytes
  lead_blank : Blank lead
  spelling_passes : skipString .plain spelling = .ok []
  gap_blank : Blank gap
  indent_blank : Blank indent
  value_flush : Flush value
  value_passes : skipValue (fuelFor value) value = .ok []
  trail_blank : Blank trail

namespace KeyedText

/-- The text of a member. -/
def text (k : KeyedText) : Bytes :=
  k.lead ++ 0x22 :: (k.spelling ++ (k.gap ++ 0x3A :: (k.indent ++ (k.value ++ k.trail))))

/-- The spelling of the key with the text of the value. -/
def part (k : KeyedText) : Bytes × Bytes :=
  (k.spelling, k.value)

theorem text_append (k : KeyedText) (rest : Bytes) : k.text ++ rest = k.lead ++ 0x22 ::
    (k.spelling ++ (k.gap ++ 0x3A :: (k.indent ++ (k.value ++ (k.trail ++ rest))))) := by
  simp [text]

theorem isValue (k : KeyedText) : IsValue k.value :=
  isValue_of_passes k.value_passes

/-- The key of a member is passed over up to its quote. -/
theorem skipString_spelling (k : KeyedText) (tail : Bytes) :
    skipString .plain (k.spelling ++ tail) = .ok tail := by
  obtain ⟨used, heq, hskip⟩ := skipString_extent k.spelling_passes
  rw [List.append_nil] at heq
  rw [heq]
  exact hskip tail

end KeyedText

/-- The text behind a member: the members that follow, each behind a comma, and the end. -/
def keyedAfter (members : List KeyedText) (rest : Bytes) : Bytes :=
  members.flatMap (fun k => 0x2C :: k.text) ++ 0x7D :: rest

/-- The text between the brackets of an object, and its end. -/
def keyedText (members : List KeyedText) (rest : Bytes) : Bytes :=
  commaSeparated (members.map KeyedText.text) ++ 0x7D :: rest

theorem keyedAfter_eq (members : List KeyedText) (rest : Bytes) :
    keyedAfter members rest = behindCommas 0x7D (members.map KeyedText.text) rest := by
  rw [behindCommas, List.flatMap_map, keyedAfter]

theorem keyedText_cons (k : KeyedText) (members : List KeyedText) (rest : Bytes) :
    keyedText (k :: members) rest = k.text ++ keyedAfter members rest := by
  rw [keyedText, List.map_cons, commaSeparated_append_close, keyedAfter_eq]

theorem keyedAfter_cons (k : KeyedText) (members : List KeyedText) (rest : Bytes) :
    keyedAfter (k :: members) rest = 0x2C :: (k.text ++ keyedAfter members rest) := by
  rw [keyedAfter_eq, List.map_cons, behindCommas_cons, ← keyedAfter_eq]

/-- A member that is read is a member to the scanner. -/
def MemberText.keyed (m : MemberText) : KeyedText where
  lead := m.lead
  spelling := m.spelling
  gap := m.gap
  indent := m.indent
  value := m.value
  trail := m.trail
  lead_blank := m.lead_blank
  spelling_passes := by
    have hskip := m.skipString_spelling []
    rwa [List.append_nil] at hskip
  gap_blank := m.gap_blank
  indent_blank := m.indent_blank
  value_flush := m.value_flush
  value_passes := m.value_passes
  trail_blank := m.trail_blank

/-- The text of members is that of their values and of the spellings of their keys. -/
theorem membersText_eq_keyedText (members : List MemberText) (rest : Bytes) :
    membersText members rest = keyedText (members.map MemberText.keyed) rest := by
  rw [keyedText, List.map_map]
  rfl

/-- The way to the value of a member. -/
theorem skipToValue_member (k : KeyedText) {lead : Bytes} (hlead : Blank lead) (tail : Bytes) :
    skipToValue .object ((lead ++ 0x22 :: (k.spelling ++ (k.gap ++ [0x3A]))) ++ tail)
      = .ok tail := by
  have hkey := skipKey_append hlead k.gap_blank k.skipString_spelling tail
  simpa [skipToValue] using hkey

/-- Members that follow are scanned up to the end of their object. -/
theorem scans_keyedAfter (members : List KeyedText) {trail : Bytes} (htrail : Blank trail) :
    Scans .next [.object] (trail ++ keyedAfter members []) := by
  induction members generalizing trail with
  | nil =>
    have hclose : Scans .next [.object] ((trail ++ [Bracket.object.close]) ++ []) :=
      Scans.nil.close (by decide) htrail
    simpa [keyedAfter, Bracket.close] using hclose
  | cons k members ih =>
    have hvalue := (k.isValue.blank_append k.indent_blank).scans (ih k.trail_blank)
    have hcomma := hvalue.comma htrail (skipToValue_member k k.lead_blank)
    rw [keyedAfter_cons]
    simpa [KeyedText.text] using hcomma

/-- **Members are passed over** up to the end of their object, whatever their keys are. -/
theorem scans_keyedText (members : List KeyedText) {inner : Bytes} (hinner : Blank inner) :
    Scans .first [.object] (inner ++ keyedText members []) := by
  cases members with
  | nil =>
    have hclose : Scans .first [.object] ((inner ++ [Bracket.object.close]) ++ []) :=
      Scans.nil.close (by decide) hinner
    simpa [keyedText, Bracket.close] using hclose
  | cons k members =>
    have hvalue := (k.isValue.blank_append k.indent_blank).scans
      (scans_keyedAfter members k.trail_blank)
    -- Behind the brace stands a quote, which is neither white space nor a bracket.
    have hquote : ∀ b ∈ (([] ++ 0x22 :: (k.spelling ++ (k.gap ++ [0x3A]))) ++
        ((k.indent ++ k.value) ++ (k.trail ++ keyedAfter members []))).head?,
        isSpace b = false ∧ b ≠ Bracket.object.close := by
      intro b hb
      cases hb
      decide
    have hfirst := hvalue.first (hinner.append k.lead_blank) (skipToValue_member k blank_nil) hquote
    rw [keyedText_cons]
    simpa [KeyedText.text] using hfirst

/-- Members that are read are passed over in the same way. -/
theorem scans_text (members : List MemberText) {inner : Bytes} (hinner : Blank inner) :
    Scans .first [.object] (inner ++ membersText members []) := by
  rw [membersText_eq_keyedText]
  exact scans_keyedText _ hinner

end DialogStub.Json
