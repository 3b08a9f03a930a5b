import ClassList.Collation.Excerpt
import ClassList.Proofs.Sorting.Arrangement

/-! Sorting conserves tokens: in every order, and whatever an oracle answers or however it fails. -/

namespace ClassList.Order

/-- Sorting gives a result in every accepted order. The tokens of each name are in it as they were
given, in the same line, so it is a permutation of the tokens in which repeated classes keep their
order. -/
theorem sortNamed_conserves {v : Value} {order : Order} (h : read v = .ok order)
    (collator : Collator) (oracle : Option Oracle) (tokens : List Token) (trace : Trace) :
    ∃ sorted, (sortNamed v collator oracle tokens).result trace = .ok sorted ∧
      (∀ name, Token.named name sorted = Token.named name tokens) ∧ sorted.Perm tokens :=
  ⟨_, sortNamed_result h collator oracle tokens trace, named_arrange order collator _ tokens,
    arrange_perm order collator _ tokens⟩

/-- An oracle that drops a class, repeats one and makes one up, on classes of which two read alike and
one holds a blank. -/
theorem sortNamed_conserves_twins :
    let first : Token := ⟨"a", "a", []⟩
    let second : Token := ⟨"a", "b", ["m"]⟩
    let plain : Token := ⟨"c", "c", []⟩
    let broken : Token := ⟨"c d", "d", []⟩
    let oracle := Oracle.ofFunction fun _ => .value (.text "c a new a a")
    read (.text " Official ") = .ok .canonical ∧
      (sortNamed (.text " Official ") .excerpt (some oracle)
          [first, broken, second, plain]).result {} = .ok [plain, first, second, broken] ∧
      (∀ name, Token.named name [plain, first, second, broken] =
        Token.named name [first, broken, second, plain]) ∧
      [plain, first, second, broken].Perm [first, broken, second, plain] := by
  intro first second plain broken oracle
  obtain ⟨sorted, hsorted, hnamed, hperm⟩ :=
    sortNamed_conserves (v := .text " Official ") rfl .excerpt (some oracle)
      [first, broken, second, plain] {}
  have hresult : (sortNamed (.text " Official ") .excerpt (some oracle)
      [first, broken, second, plain]).result {} = .ok [plain, first, second, broken] := rfl
  obtain rfl : [plain, first, second, broken] = sorted :=
    Except.ok.inj (hresult.symm.trans hsorted)
  exact ⟨rfl, hresult, hnamed, hperm⟩

end ClassList.Order
