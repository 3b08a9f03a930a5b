import ClassList.Proofs.Sorting.Selection
import ClassList.Proofs.Trace

/-! What sorting makes of tokens, as a function of the tokens and of the names that an oracle answers
with: it keeps the tokens of each name in line, and sorting again changes nothing. -/

namespace ClassList

namespace Token

/-- Two lists with the same tokens of each name have the same tokens. -/
theorem perm_of_named {front back : List Token} (h : ∀ x, named x front = named x back) :
    front.Perm back := by
  rw [List.perm_iff_count]
  intro t
  have count_named : ∀ tokens, List.count t (named t.original tokens) = List.count t tokens :=
    fun _ => List.count_filter (by simp)
  rw [← count_named front, ← count_named back, h]

section KeyLe

variable {collator : Collator} {a b : Token}

theorem keyLe_iff : keyLe collator a b = true ↔
    List.le (a.collationKey collator) (b.collationKey collator) := by
  rw [keyLe, Bool.not_eq_true', List.lex_eq_false_iff_not_lex]
  simp only [Nat.blt_eq]
  exact Iff.rfl

theorem keyLe_of_original_eq (h : a.original = b.original) : keyLe collator a b = true := by
  rw [keyLe_iff, collationKey, collationKey, h]
  exact List.le_refl _

theorem keyLe_trans (a b c : Token) (hab : keyLe collator a b = true)
    (hbc : keyLe collator b c = true) : keyLe collator a c = true :=
  keyLe_iff.mpr (List.le_trans (keyLe_iff.mp hab) (keyLe_iff.mp hbc))

theorem keyLe_total (a b : Token) : (keyLe collator a b || keyLe collator b a) = true := by
  rcases List.le_total (a.collationKey collator) (b.collationKey collator) with h | h
  · rw [keyLe_iff.mpr h, Bool.true_or]
  · rw [keyLe_iff.mpr h, Bool.or_true]

end KeyLe

section MergeSort

variable {le : Token → Token → Bool} (trans : ∀ a b c, le a b = true → le b c = true → le a c = true)
  (total : ∀ a b, (le a b || le b a) = true)
include trans total

/-- Tokens that may stand in any order are left in line by a stable sort. -/
theorem filter_mergeSort {p : Token → Bool} (same : ∀ a b, p a = true → p b = true → le a b = true)
    (tokens : List Token) : (tokens.mergeSort le).filter p = tokens.filter p := by
  have hpair : (tokens.filter p).Pairwise fun a b => le a b = true :=
    List.pairwise_of_forall_mem_list fun a ha b hb =>
      same a b (List.mem_filter.mp ha).2 (List.mem_filter.mp hb).2
  have hsub : (tokens.filter p).Sublist (tokens.mergeSort le) :=
    List.sublist_mergeSort trans total hpair List.filter_sublist
  have hsub : (tokens.filter p).Sublist ((tokens.mergeSort le).filter p) := by
    simpa using hsub.filter p
  exact (hsub.eq_of_length ((List.mergeSort_perm tokens le).filter p).length_eq.symm).symm

/-- Tokens of one name have one key, so they stay in line. -/
theorem named_mergeSort (same : ∀ a b : Token, a.original = b.original → le a b = true) (x : Text)
    (tokens : List Token) : named x (tokens.mergeSort le) = named x tokens :=
  filter_mergeSort trans total (fun a b ha hb =>
    same a b ((of_decide_eq_true ha).trans (of_decide_eq_true hb).symm)) tokens

theorem mergeSort_mergeSort (tokens : List Token) :
    (tokens.mergeSort le).mergeSort le = tokens.mergeSort le :=
  List.mergeSort_of_pairwise (List.pairwise_mergeSort trans total tokens)

end MergeSort

end Token

namespace Order

/-- Tokens in a given order. Canonical order follows the names of an answer, if there is one. -/
def arrange (order : Order) (collator : Collator) (names? : Option (List Text))
    (tokens : List Token) : List Token :=
  match order, names? with
  | .unsorted, _ => tokens
  | .ascending, _ => tokens.mergeSort (Token.keyLe collator)
  | .descending, _ => tokens.mergeSort fun a b => Token.keyLe collator b a
  | .canonical, none => tokens
  | .canonical, some names => (Selection.serve tokens names).result

section Arrange

variable (order : Order) (collator : Collator) (names? : Option (List Text)) (tokens : List Token)

/-- Whatever the names, the tokens of each name are as they were, and in the same order. -/
theorem named_arrange (x : Text) :
    Token.named x (order.arrange collator names? tokens) = Token.named x tokens := by
  cases order with
  | unsorted => rfl
  | ascending =>
    exact Token.named_mergeSort Token.keyLe_trans Token.keyLe_total
      (fun _ _ h => Token.keyLe_of_original_eq h) x tokens
  | descending =>
    exact Token.named_mergeSort (fun a b c hab hbc => Token.keyLe_trans c b a hbc hab)
      (fun a b => Token.keyLe_total b a) (fun _ _ h => Token.keyLe_of_original_eq h.symm) x tokens
  | canonical =>
    cases names? with
    | none => rfl
    | some names => exact Selection.named_result_serve tokens names x

theorem arrange_perm : (order.arrange collator names? tokens).Perm tokens :=
  Token.perm_of_named (named_arrange order collator names? tokens)

theorem arrange_arrange :
    order.arrange collator names? (order.arrange collator names? tokens) =
      order.arrange collator names? tokens := by
  cases order with
  | unsorted => rfl
  | ascending => exact Token.mergeSort_mergeSort Token.keyLe_trans Token.keyLe_total tokens
  | descending =>
    exact Token.mergeSort_mergeSort (fun a b c hab hbc => Token.keyLe_trans c b a hbc hab)
      (fun a b => Token.keyLe_total b a) tokens
  | canonical =>
    cases names? with
    | none => rfl
    | some names => exact congrArg Selection.result (Selection.serve_result tokens names)

theorem arrange_nil : order.arrange collator names? [] = [] :=
  List.Perm.eq_nil (order.arrange_perm collator names? [])

end Arrange

/-- The names in the answer of an oracle that is asked to sort tokens after earlier questions. There
are none without an oracle or without a text for an answer. -/
def names? (oracle : Option Oracle) (earlier : List Text) (tokens : List Token) :
    Option (List Text) :=
  oracle.bind fun oracle =>
    (oracle.answer earlier (joinOriginals tokens)).text.toOption.map Text.words

def questions (order : Order) (oracle : Option Oracle) (tokens : List Token) : List Text :=
  if order = .canonical ∧ oracle.isSome then [joinOriginals tokens] else []

theorem sortCanonical_some (collator : Collator) (oracle : Oracle) (tokens : List Token)
    (trace : Trace) :
    (sortCanonical (some oracle) tokens trace).1 =
        arrange .canonical collator (names? (some oracle) trace.questions tokens) tokens ∧
      Trace.Asked (some oracle) [joinOriginals tokens] trace
        (sortCanonical (some oracle) tokens trace).2 := by
  have hasked := Trace.asked_ask oracle (joinOriginals tokens) trace
  simp only [names?, Option.bind_some]
  cases h : (oracle.answer trace.questions (joinOriginals tokens)).text with
  | error reason =>
    simp only [sortCanonical, Oracle.ask, h, bind, StateT.bind]
    exact ⟨rfl, hasked.trans (Trace.asked_report ..)⟩
  | ok names =>
    simp only [sortCanonical, Oracle.ask, h, bind, StateT.bind]
    exact ⟨rfl, hasked.trans (Trace.asked_report ..)⟩

/-- Sorting arranges the tokens by the answer to the questions it adds to the trace. -/
theorem sort_run (order : Order) (collator : Collator) (oracle : Option Oracle)
    (tokens : List Token) (trace : Trace) :
    (order.sort collator oracle tokens trace).1 =
        order.arrange collator (names? oracle trace.questions tokens) tokens ∧
      Trace.Asked oracle (order.questions oracle tokens) trace
        (order.sort collator oracle tokens trace).2 := by
  cases order with
  | canonical =>
    cases oracle with
    | none => exact ⟨rfl, Trace.asked_report ..⟩
    | some oracle => exact sortCanonical_some collator oracle tokens trace
  | _ => exact ⟨rfl, Trace.Asked.refl ..⟩

section Named

variable {v : Value} {order : Order} (h : read v = .ok order) (collator : Collator)
  (oracle : Option Oracle) (tokens : List Token) (trace : Trace)
include h

theorem sortNamed_of_ne_nil (hne : tokens ≠ []) :
    sortNamed v collator oracle tokens = liftM (order.sort collator oracle tokens) := by
  have hempty : tokens.isEmpty = false := by simpa using hne
  simp only [sortNamed, hempty, h]
  rfl

theorem sortNamed_result :
    (sortNamed v collator oracle tokens).result trace =
      .ok (order.arrange collator (names? oracle trace.questions tokens) tokens) := by
  by_cases hne : tokens = []
  · rw [hne, arrange_nil]
    rfl
  · rw [sortNamed_of_ne_nil h collator oracle tokens hne, Job.result_lift, (sort_run ..).1]

theorem sortNamed_asked (hne : tokens ≠ []) :
    Trace.Asked oracle (order.questions oracle tokens) trace
      ((sortNamed v collator oracle tokens).after trace) := by
  rw [sortNamed_of_ne_nil h collator oracle tokens hne, Job.after_lift]
  exact (sort_run ..).2

end Named

theorem read_name (order : Order) : read (.text order.name) = .ok order := by
  cases order <;> rfl

end Order

end ClassList
