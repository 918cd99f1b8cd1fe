import DialogStub.Proofs.Http.Cors
import DialogStub.Proofs.Http.Transparency
import DialogStub.Proofs.Text.Percent
import Mathlib.Data.List.DropRight

/-!
# Where a trace id comes from

* `Header.stripped` — a value without the spaces and tabs at both ends;
* `Trace.Usable` — the values that are taken as trace ids;
* `Trace.idOf?_of_usable`, `Trace.idOf?_of_not_usable` — the id that a request brings with it is the
  first value of the field, stripped, or there is none;
* `Uuid.IsText` — the texts of random UUIDs, with `Supply.uuids` as a supply of them;
* `Trace.around_values`, `Trace.around_congr` — the answer has the chosen id and no other, and so
  does every request that the service inside can get.

A value is first read as visible ASCII and then trimmed as text of any language. Among visible
characters, white space is the space and the tab.
-/

namespace DialogStub

open Http

/-! ### Ends of a value -/

namespace Http.Header

/-- A space or a tab. -/
def isPad (b : UInt8) : Bool :=
  b = 0x20 || b = 0x09

/-- A value without the spaces and tabs at both ends. -/
def stripped (value : Bytes) : Bytes :=
  (value.dropWhile isPad).rdropWhile isPad

/-- A value without spaces and tabs has none at its ends. -/
theorem stripped_of_forall {value : Bytes} (h : ∀ b ∈ value, isPad b = false) :
    stripped value = value := by
  have hstart : value.dropWhile isPad = value := by
    refine List.dropWhile_eq_self_iff.mpr fun hpos => ?_
    rw [h _ (List.getElem_mem hpos)]
    exact Bool.false_ne_true
  rw [stripped, hstart]
  refine List.rdropWhile_eq_self_iff.mpr fun hne => ?_
  rw [h _ (List.getLast_mem hne)]
  exact Bool.false_ne_true

theorem mem_of_mem_stripped {value : Bytes} {b : UInt8} (h : b ∈ stripped value) : b ∈ value :=
  (List.dropWhile_sublist isPad).subset ((List.rdropWhile_prefix isPad _).subset h)

/-- Nothing is left of white space alone. -/
theorem stripped_eq_nil_iff {value : Bytes} :
    stripped value = [] ↔ ∀ b ∈ value, isPad b = true := by
  rw [stripped, List.rdropWhile_eq_nil_iff]
  refine ⟨fun h b hb => ?_, fun h b hb => h b ((List.dropWhile_sublist isPad).subset hb)⟩
  -- What is dropped at the start is white space, and so is what is left.
  rw [← List.takeWhile_append_dropWhile (p := isPad) (l := value)] at hb
  rcases List.mem_append.mp hb with hstart | hrest
  · exact List.mem_takeWhile_imp hstart
  · exact h b hrest

/-- What is left has no white space around it. -/
@[simp] theorem stripped_stripped (value : Bytes) : stripped (stripped value) = stripped value := by
  have hstart : (stripped value).dropWhile isPad = stripped value := by
    refine List.dropWhile_eq_self_iff.mpr fun hpos => ?_
    -- The first byte that is left is the first one that is no white space.
    have hrest : 0 < (value.dropWhile isPad).length :=
      Nat.lt_of_lt_of_le hpos (List.rdropWhile_prefix isPad _).length_le
    have hfirst : (stripped value)[0] = (value.dropWhile isPad)[0] :=
      (List.rdropWhile_prefix isPad _).getElem hpos
    rw [hfirst]
    exact List.dropWhile_get_zero_not isPad value hrest
  rw [stripped, hstart]
  exact List.rdropWhile_idempotent isPad (value.dropWhile isPad)

/-! ### Visible values as texts -/

/-- A value of visible bytes is read as a text. -/
theorem text?_of_visible {value : Bytes} (h : ∀ b ∈ value, isVisible b = true) :
    text? value = some (String.ofList (value.map Utf8.asciiChar)) := by
  rw [text?, if_pos (List.all_eq_true.mpr h)]
  exact Utf8.text?_of_ascii fun b hb => lt_of_isVisible (h b hb)

/-- And only such a value is. -/
theorem visible_of_text? {value : Bytes} {text : String} (h : text? value = some text) :
    ∀ b ∈ value, isVisible b = true := by
  unfold text? at h
  split at h
  · rename_i hall
    exact List.all_eq_true.mp hall
  · cases h

/-- A visible character is white space if it is a space or a tab. -/
theorem isBlank_asciiChar : ∀ b : UInt8, isVisible b = true →
    Text.isBlank (Utf8.asciiChar b) = isPad b :=
  Percent.forall_byte (by decide +kernel)

/-- White space at the start is the same in bytes and in characters. -/
theorem trimStart_map {value : Bytes} (h : ∀ b ∈ value, isVisible b = true) :
    Text.trimStart (value.map Utf8.asciiChar) = (value.dropWhile isPad).map Utf8.asciiChar := by
  induction value with
  | nil => rfl
  | cons b rest ih =>
    obtain ⟨hb, hrest⟩ := List.forall_mem_cons.mp h
    rw [Text.trimStart, List.map_cons, List.dropWhile_cons, List.dropWhile_cons,
      isBlank_asciiChar b hb]
    split
    · exact ih hrest
    · rfl

/-- To trim visible text is to strip its bytes. -/
theorem trim_map {value : Bytes} (h : ∀ b ∈ value, isVisible b = true) :
    Text.trim (value.map Utf8.asciiChar) = (stripped value).map Utf8.asciiChar := by
  have hrest : ∀ b ∈ (value.dropWhile isPad).reverse, isVisible b = true := fun b hb =>
    h b ((List.dropWhile_sublist isPad).subset (List.mem_reverse.mp hb))
  rw [Text.trim, trimStart_map h, ← List.map_reverse, trimStart_map hrest, ← List.map_reverse]
  rfl

end Http.Header

/-! ### Ids that requests bring with them -/

namespace Http.Trace

/-- A value that is taken as a trace id: visible ASCII, spaces and tabs, and not blank. -/
structure Usable (value : Bytes) : Prop where
  visible : ∀ b ∈ value, Header.isVisible b = true
  not_blank : ∃ b ∈ value, Header.isPad b = false

/-- Whether a value is usable can be decided byte by byte. -/
theorem usable_iff {value : Bytes} :
    Usable value ↔ value.all Header.isVisible = true ∧ value.all Header.isPad = false := by
  rw [List.all_eq_true, List.all_eq_false]
  simp only [Bool.not_eq_true]
  exact ⟨fun h => ⟨h.visible, h.not_blank⟩, fun h => ⟨h.1, h.2⟩⟩

instance (value : Bytes) : Decidable (Usable value) :=
  decidable_of_iff _ usable_iff.symm

/-- Something is left of a usable value. -/
theorem Usable.stripped_ne_nil {value : Bytes} (h : Usable value) :
    Header.stripped value ≠ [] := by
  intro hnil
  obtain ⟨b, hb, hpad⟩ := h.not_blank
  rw [Header.stripped_eq_nil_iff.mp hnil b hb] at hpad
  cases hpad

/-- What is left of a usable value is usable. -/
theorem Usable.stripped {value : Bytes} (h : Usable value) : Usable (Header.stripped value) where
  visible b hb := h.visible b (Header.mem_of_mem_stripped hb)
  not_blank := by
    by_contra hall
    refine h.stripped_ne_nil ?_
    rw [← Header.stripped_stripped, Header.stripped_eq_nil_iff]
    intro b hb
    rw [← Bool.not_eq_false]
    exact fun hpad => hall ⟨b, hb, hpad⟩

variable {headers : Headers}

/-- **A usable value is the id**, without the white space around it. -/
theorem idOf?_of_usable {value : Bytes} (hfirst : headers.get? header = some value)
    (husable : Usable value) :
    idOf? headers = some (String.ofList ((Header.stripped value).map Utf8.asciiChar)) := by
  -- The value is text, since all of its bytes are visible.
  have hread : headers.text? header = some (String.ofList (value.map Utf8.asciiChar)) := by
    rw [Headers.text?, hfirst]
    exact Header.text?_of_visible husable.visible
  have hne : String.ofList ((Header.stripped value).map Utf8.asciiChar) ≠ "" := by
    intro heq
    have hnil := congrArg String.toList heq
    rw [String.toList_ofList] at hnil
    exact husable.stripped_ne_nil (List.map_eq_nil_iff.mp hnil)
  rw [idOf?, hread, Option.map_some, Text.trimText, String.toList_ofList,
    Header.trim_map husable.visible]
  exact Option.filter_eq_some_iff.mpr ⟨rfl, by simpa using hne⟩

/-- **Without a usable value** first there is no id. -/
theorem idOf?_of_not_usable (h : ∀ value, headers.get? header = some value → ¬Usable value) :
    idOf? headers = none := by
  rw [idOf?, Option.filter_eq_none_iff]
  intro id hid
  obtain ⟨text, htext, rfl⟩ := Option.map_eq_some_iff.mp hid
  obtain ⟨value, hfirst, hvalue⟩ := Option.bind_eq_some_iff.mp htext
  have hvisible := Header.visible_of_text? hvalue
  rw [Header.text?_of_visible hvisible] at hvalue
  obtain rfl := Option.some.inj hvalue
  -- All that is visible in it is white space.
  have hblank : Header.stripped value = [] := by
    rw [Header.stripped_eq_nil_iff]
    intro b hb
    rw [← Bool.not_eq_false]
    exact fun hpad => h value hfirst ⟨hvisible, b, hb, hpad⟩
  rw [Text.trimText, String.toList_ofList, Header.trim_map hvisible, hblank]
  decide

variable {supply : Supply} {request : Request} {w : World}

/-- The chosen id is a usable value that the request brings with it. -/
theorem bytes_chosen_of_usable {value : Bytes} (hfirst : request.headers.get? header = some value)
    (husable : Usable value) :
    Utf8.bytes (chosen supply request w) = Header.stripped value := by
  rw [chosen, idOf?_of_usable hfirst husable, Option.getD_some, Utf8.bytes, String.toList_ofList]
  exact Utf8.encode_map_asciiChar fun b hb => Header.lt_of_isVisible (husable.stripped.visible b hb)

/-- Or else it is a fresh one. -/
theorem chosen_of_not_usable
    (h : ∀ value, request.headers.get? header = some value → ¬Usable value) :
    chosen supply request w = supply.id w.drawn := by
  rw [chosen, idOf?_of_not_usable h, Option.getD_none]

/-! ### What is marked with the id -/

/-- **An answer has the chosen id**, and no other, whatever the service inside does. -/
theorem around_values (ids : supply.Printable) (inner : Request → Effect Response)
    (request : Request) (w : World) :
    (around supply inner request w).1.headers.values header
      = [Utf8.bytes (chosen supply request w)] := by
  rw [around_eq]
  dsimp only
  rw [valueOf?_chosen ids request w]
  exact Headers.values_set_self _ header _

/-- **The service inside only gets requests with the chosen id**, and no other: all that it does
    for other requests makes no difference. -/
theorem around_congr (ids : supply.Printable) {inner inner' : Request → Effect Response}
    (h : ∀ passed : Request,
      passed.headers.values header = [Utf8.bytes (chosen supply request w)] →
        inner' passed = inner passed) :
    around supply inner' request w = around supply inner request w := by
  have hexchange : exchange (valueOf? (chosen supply request w)) inner' request
      = exchange (valueOf? (chosen supply request w)) inner request := by
    rw [valueOf?_chosen ids request w]
    -- The first half of the exchange does not reach the service, and the second gets the chosen id.
    refine bind_congr fun result => ?_
    cases result with
    | error fault => rfl
    | ok body =>
      dsimp only
      rw [h _ (Headers.values_set_self request.headers header _)]
  rw [around_eq, around_eq]
  dsimp only
  rw [hexchange]

end Http.Trace

/-! ### Fresh ids -/

namespace Uuid

/-- The mold of a random UUID: `x` is any digit, and `y` one of four. -/
def mold : List Char :=
  "xxxxxxxx-xxxx-4xxx-yxxx-xxxxxxxxxxxx".toList

/-- The hexadecimal digits. -/
def digits : List Char :=
  "0123456789abcdef".toList

/-- Whether a character fits into a place of the mold. -/
def fits (place c : Char) : Bool :=
  if place = 'x' then digits.contains c
  else if place = 'y' then "89ab".toList.contains c
  else c = place

/-- The text of a random UUID. -/
structure IsText (s : String) : Prop where
  length_eq : s.toList.length = mold.length
  fits : ∀ pair ∈ mold.zip s.toList, fits pair.1 pair.2 = true

/-- What fits a place of the mold is a digit or a dash. -/
theorem mem_of_fits {place c : Char} (hplace : place ∈ mold) (h : fits place c = true) :
    c ∈ '-' :: digits := by
  -- The places of the mold are digits and dashes, but for two kinds.
  have hsigns : (mold.all fun p => p = 'x' || p = 'y' || ('-' :: digits).contains p) = true := by
    decide
  have hvariant : ("89ab".toList.all ('-' :: digits).contains) = true := by decide
  unfold fits at h
  split at h
  · exact List.mem_cons_of_mem _ (List.contains_iff_mem.mp h)
  · rename_i hx
    split at h
    · have hc := List.all_eq_true.mp hvariant c (List.contains_iff_mem.mp h)
      exact List.contains_iff_mem.mp hc
    · rename_i hy
      obtain rfl := of_decide_eq_true h
      have hc := List.all_eq_true.mp hsigns c hplace
      simpa [hx, hy] using hc

/-- All characters of a UUID are digits and dashes. -/
theorem IsText.mem {s : String} (h : IsText s) {c : Char} (hc : c ∈ s.toList) :
    c ∈ '-' :: digits := by
  rw [← List.map_snd_zip (Nat.le_of_eq h.length_eq), List.mem_map] at hc
  obtain ⟨⟨place, c⟩, hpair, rfl⟩ := hc
  exact mem_of_fits (List.of_mem_zip hpair).1 (h.fits _ hpair)

/-- The bytes of a UUID are visible, and no white space. -/
theorem IsText.visible {s : String} (h : IsText s) {b : UInt8} (hb : b ∈ Utf8.bytes s) :
    Header.isVisible b = true ∧ Header.isPad b = false := by
  have hsigns : (('-' :: digits).all fun c => (Utf8.encodeChar c).all fun b =>
      Header.isVisible b && !Header.isPad b) = true := by decide
  obtain ⟨c, hc, hbc⟩ := List.mem_flatMap.mp hb
  have hbyte := List.all_eq_true.mp (List.all_eq_true.mp hsigns c (h.mem hc)) b hbc
  simpa using hbyte

/-- A UUID is not empty. -/
theorem IsText.ne_nil {s : String} (h : IsText s) : Utf8.bytes s ≠ [] := by
  intro hnil
  have hlength := h.length_eq
  rw [Utf8.encode_injective (hnil.trans Utf8.encode_nil.symm)] at hlength
  exact absurd hlength (by decide)

/-- A UUID is taken as a trace id, as it is. -/
theorem IsText.usable {s : String} (h : IsText s) : Trace.Usable (Utf8.bytes s) where
  visible _ hb := (h.visible hb).1
  not_blank := by
    obtain ⟨b, hb⟩ := List.exists_mem_of_ne_nil _ h.ne_nil
    exact ⟨b, hb, (h.visible hb).2⟩

/-- There is no white space around it. -/
theorem IsText.stripped_eq {s : String} (h : IsText s) :
    Header.stripped (Utf8.bytes s) = Utf8.bytes s :=
  Header.stripped_of_forall fun _ hb => (h.visible hb).2

/-- The last digits of a number. -/
def lastDigits : Nat → Nat → List Char
  | 0, _ => []
  | count + 1, n => lastDigits count (n / 16) ++ [digits.getD (n % 16) '0']

/-- As many digits as were asked for. -/
theorem length_lastDigits (count n : Nat) : (lastDigits count n).length = count := by
  induction count generalizing n with
  | zero => rfl
  | succ count ih =>
    rw [lastDigits, List.length_append, ih]
    rfl

/-- Each of them is a digit. -/
theorem mem_lastDigits {count n : Nat} : ∀ c ∈ lastDigits count n, c ∈ digits := by
  have hdigit : ∀ m < 16, digits.getD m '0' ∈ digits := by decide
  induction count generalizing n with
  | zero => exact List.forall_mem_nil _
  | succ count ih =>
    exact List.forall_mem_append.mpr
      ⟨ih, List.forall_mem_singleton.mpr (hdigit _ (Nat.mod_lt _ (by decide)))⟩

/-- The text before the last digits. -/
def front : List Char :=
  "00000000-0000-4000-8000-".toList

theorem fits_front : ∀ pair ∈ (mold.take 24).zip front, fits pair.1 pair.2 = true := by
  decide

/-- The UUID with a number at its end. -/
def ofNat (n : Nat) : String :=
  String.ofList (front ++ lastDigits 12 n)

/-- **Each number makes a UUID.** -/
theorem isText_ofNat (n : Nat) : IsText (ofNat n) := by
  have hlength : front.length = 24 := by decide
  have hmold : mold = mold.take 24 ++ List.replicate 12 'x' := by decide
  constructor
  · rw [ofNat, String.toList_ofList, List.length_append, length_lastDigits, hlength]
    decide
  · intro pair hpair
    rw [ofNat, String.toList_ofList, hmold, List.zip_append (by rw [hlength]; decide)] at hpair
    rcases List.mem_append.mp hpair with hstart | hend
    · exact fits_front pair hstart
    · -- Every digit fits into the last places.
      obtain ⟨hplace, hdigit⟩ := List.of_mem_zip (a := pair.1) (b := pair.2) hend
      rw [List.eq_of_mem_replicate hplace, fits, if_pos rfl]
      exact List.contains_iff_mem.mpr (mem_lastDigits _ hdigit)

end Uuid

/-- A supply of UUIDs with numbers at their ends. -/
def Supply.uuids : Supply where
  id := Uuid.ofNat
  time _ := .epoch

/-- UUIDs may stand in a header field. -/
theorem Supply.printable_of_isText {supply : Supply} (h : ∀ n, Uuid.IsText (supply.id n)) :
    supply.Printable :=
  fun n => List.all_eq_true.mpr fun _ hb =>
    Header.isValueByte_of_isVisible ((h n).visible hb).1

end DialogStub
