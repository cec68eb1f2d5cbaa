import TypedGraphQL.Selection.Basic

namespace TypedGraphQL.Selection

/-!
Merging of request lists.  An entry that asks for what is already asked for
gives its nested requests to the first such entry; any other goes to the end.
-/

def changeFirst? (found : Selection → Bool) (change : Selection → Selection) :
    List Selection → Option (List Selection)
  | [] => none
  | held :: rest =>
    if found held then some (change held :: rest)
    else (changeFirst? found change rest).map (held :: ·)

mutual
/-- Gives the nested requests of `incoming` to an entry that asks for the same. -/
def absorb (held : Selection) : Selection → Selection
  | field _ _ _ selections | fragment _ selections =>
    held.withChildren (mergeAll held.children selections)

def mergeAll (into : List Selection) : List Selection → List Selection
  | [] => into
  | incoming :: rest =>
    mergeAll
      ((changeFirst? (·.sameRequest incoming) (absorb · incoming) into).getD
        (into ++ [incoming]))
      rest
end

def insert (into : List Selection) (incoming : Selection) : List Selection :=
  (changeFirst? (·.sameRequest incoming) (absorb · incoming) into).getD
    (into ++ [incoming])

theorem mergeAll_nil (into : List Selection) : mergeAll into [] = into := by
  rw [mergeAll]

theorem mergeAll_cons (into : List Selection) (incoming : Selection)
    (rest : List Selection) :
    mergeAll into (incoming :: rest) = mergeAll (insert into incoming) rest := by
  rw [mergeAll, insert]

end TypedGraphQL.Selection
