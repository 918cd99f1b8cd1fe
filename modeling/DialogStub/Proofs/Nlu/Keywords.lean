import DialogStub.Nlu.Intent
import DialogStub.Proofs.Text.LowerCase

/-!
# What the keywords tell of a text

* `Greets`, `AsksBalance` — the texts that spell one of the keywords, whatever the case of each
  letter;
* `intentOf_cases` — the intent of a text, told by the text itself and not by its lower-case form;
* `Intent.weight` — which of two intents prevails;
* `classify_keywords` — what a text is taken for, and which reply it gets.

All that is used of the keywords is that they are made of small letters, and that a text around them
does not disturb them.
-/

namespace DialogStub

open Text

/-! ### Keywords in a text -/

/-- A text that spells a word of a greeting. -/
def Greets (text : String) : Prop :=
  Spells "привет".toList text.toList ∨ Spells "здравствуй".toList text.toList

/-- A text that spells the word of a question about the balance. -/
def AsksBalance (text : String) : Prop :=
  Spells "баланс".toList text.toList

/-- A text greets with any text around it. -/
theorem Greets.append {text : String} (h : Greets text) (before after : String) :
    Greets (before ++ text ++ after) := by
  unfold Greets
  rw [String.toList_append, String.toList_append]
  exact h.imp (fun h => h.append _ _) (fun h => h.append _ _)

/-- A text asks for the balance with any text around it. -/
theorem AsksBalance.append {text : String} (h : AsksBalance text) (before after : String) :
    AsksBalance (before ++ text ++ after) := by
  unfold AsksBalance
  rw [String.toList_append, String.toList_append]
  exact Spells.append h _ _

/-- All letters of the keywords are small. -/
theorem isSmall_of_keyword :
    ∀ word ∈ greetingWords ++ balanceWords, ∀ k ∈ word.toList, IsSmall k := by
  have hall : (greetingWords ++ balanceWords).all
      (fun word => word.toList.all fun k => decide (IsSmall k)) = true := by
    decide
  intro word hword k hk
  exact of_decide_eq_true (List.all_eq_true.mp (List.all_eq_true.mp hall word hword) k hk)

/-- The search for some of the keywords in the lower-case form of a text. -/
theorem containsAny_lowerCase_iff {words : List String} (h : words ⊆ greetingWords ++ balanceWords)
    (cs : List Char) :
    containsAny words (lowerCase cs) = true ↔ ∃ word ∈ words, Spells word.toList cs := by
  rw [containsAny, List.any_eq_true]
  refine exists_congr fun word => and_congr_right fun hword => ?_
  exact contains_lowerCase_iff (isSmall_of_keyword word (h hword)) cs

/-- The greeting words are looked for in any case of their letters. -/
theorem containsAny_greetingWords_iff (text : String) :
    containsAny greetingWords (lowerCase text.toList) = true ↔ Greets text := by
  rw [containsAny_lowerCase_iff (List.subset_append_left _ _)]
  simp [greetingWords, Greets]

/-- The balance words are looked for in any case of their letters. -/
theorem containsAny_balanceWords_iff (text : String) :
    containsAny balanceWords (lowerCase text.toList) = true ↔ AsksBalance text := by
  rw [containsAny_lowerCase_iff (List.subset_append_right _ _)]
  simp [balanceWords, AsksBalance]

/-! ### Intents -/

/-- **The intent of a text**: a greeting prevails over a question about the balance. -/
theorem intentOf_cases (text : String) :
    (Greets text ∧ intentOf text = .greeting) ∨
    (¬Greets text ∧ AsksBalance text ∧ intentOf text = .checkBalance) ∨
    (¬Greets text ∧ ¬AsksBalance text ∧ intentOf text = .unknown) := by
  rw [← containsAny_greetingWords_iff, ← containsAny_balanceWords_iff]
  unfold intentOf
  dsimp only
  by_cases hgreets : containsAny greetingWords (lowerCase text.toList) = true
  · exact .inl ⟨hgreets, if_pos hgreets⟩
  · rw [if_neg hgreets]
    by_cases hasks : containsAny balanceWords (lowerCase text.toList) = true
    · exact .inr (.inl ⟨hgreets, hasks, if_pos hasks⟩)
    · exact .inr (.inr ⟨hgreets, hasks, if_neg hasks⟩)

/-- The intent of a text says which keywords are in it. -/
theorem intentOf_eq_iff (text : String) :
    (intentOf text = .greeting ↔ Greets text) ∧
    (intentOf text = .checkBalance ↔ ¬Greets text ∧ AsksBalance text) ∧
    (intentOf text = .unknown ↔ ¬Greets text ∧ ¬AsksBalance text) := by
  rcases intentOf_cases text with ⟨hgreets, h⟩ | ⟨hgreets, hasks, h⟩ | ⟨hgreets, hasks, h⟩
  · simp [h, hgreets]
  · simp [h, hgreets, hasks]
  · simp [h, hgreets, hasks]

/-- Which intent prevails: nothing known, then a question about the balance, then a greeting. -/
def Intent.weight : Intent → Nat
  | .unknown => 0
  | .checkBalance => 1
  | .greeting => 2

/-- More text never makes an intent give way to one of less weight: a keyword stays in the text. -/
theorem weight_intentOf_le (text before after : String) :
    (intentOf text).weight ≤ (intentOf (before ++ text ++ after)).weight := by
  obtain ⟨hgreeting, hbalance, -⟩ := intentOf_eq_iff (before ++ text ++ after)
  rcases intentOf_cases text with ⟨hgreets, htext⟩ | ⟨-, hasks, htext⟩ | ⟨-, -, htext⟩
  · exact Nat.le_of_eq (by rw [htext, hgreeting.mpr (hgreets.append before after)])
  · by_cases hgreets : Greets (before ++ text ++ after)
    · rw [htext, hgreeting.mpr hgreets]
      decide
    · exact Nat.le_of_eq (by rw [htext, hbalance.mpr ⟨hgreets, hasks.append before after⟩])
  · rw [htext]
    exact Nat.zero_le _

/-- How sure an intent is, in figures. -/
def Intent.figures : Intent → String
  | .unknown => "0.5"
  | .checkBalance => "0.89"
  | .greeting => "0.95"

theorem Intent.text_confidence (intent : Intent) :
    intent.confidence.text = intent.figures.toList := by
  cases intent <;> decide +kernel

/-- The reply goes by the keywords of the text. -/
theorem botReply_cases (text : String) (replies : BotReplies) :
    (Greets text → botReply text replies = replies.greeting) ∧
    (¬Greets text → AsksBalance text → botReply text replies = replies.checkBalance) ∧
    (¬Greets text → ¬AsksBalance text → botReply text replies = replies.fallback) := by
  obtain ⟨hgreeting, hbalance, hunknown⟩ := intentOf_eq_iff text
  have hreply : botReply text replies = replies.forIntent (intentOf text) := rfl
  rw [hreply]
  refine ⟨fun hgreets => ?_, fun hgreets hasks => ?_, fun hgreets hasks => ?_⟩
  · rw [hgreeting.mpr hgreets]
    rfl
  · rw [hbalance.mpr ⟨hgreets, hasks⟩]
    rfl
  · rw [hunknown.mpr ⟨hgreets, hasks⟩]
    rfl

/-- **Keywords.** A text is taken for what its keywords say, and is given the figures of this
    intent. More text before or behind it never lowers its weight, and the reply goes by the same
    rule. -/
theorem classify_keywords (text : String) :
    ((classify text).intent = .greeting ↔ Greets text) ∧
    ((classify text).intent = .checkBalance ↔ ¬Greets text ∧ AsksBalance text) ∧
    ((classify text).intent = .unknown ↔ ¬Greets text ∧ ¬AsksBalance text) ∧
    (classify text).confidence.text = (classify text).intent.figures.toList ∧
    (∀ before after : String, (classify text).intent.weight ≤
      (classify (before ++ text ++ after)).intent.weight) ∧
    ∀ replies : BotReplies,
      (Greets text → botReply text replies = replies.greeting) ∧
      (¬Greets text → AsksBalance text → botReply text replies = replies.checkBalance) ∧
      (¬Greets text → ¬AsksBalance text → botReply text replies = replies.fallback) := by
  obtain ⟨hgreeting, hbalance, hunknown⟩ := intentOf_eq_iff text
  exact ⟨hgreeting, hbalance, hunknown, (intentOf text).text_confidence,
    weight_intentOf_le text, botReply_cases text⟩

end DialogStub
