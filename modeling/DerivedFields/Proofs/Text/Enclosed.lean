/-!
# Text between quotes

A text stands between quotes with each quote of its own written twice, so that a quote on its own ends
it.
-/

namespace DerivedFields.Text

/-- Text with every quote written twice. -/
def doubled (quote : Char) (text : List Char) : List Char :=
  text.flatMap fun c => if c = quote then [quote, quote] else [c]

/-- Text between quotes. -/
def enclose (quote : Char) (text : List Char) : List Char := quote :: (doubled quote text ++ [quote])

variable {quote c : Char}

@[simp] theorem doubled_nil (quote : Char) : doubled quote [] = [] := rfl

@[simp] theorem doubled_quote (quote : Char) (text : List Char) :
    doubled quote (quote :: text) = quote :: quote :: doubled quote text := by
  rw [doubled, List.flatMap_cons, if_pos rfl]
  rfl

theorem doubled_cons (other : c ≠ quote) (text : List Char) :
    doubled quote (c :: text) = c :: doubled quote text := by
  rw [doubled, List.flatMap_cons, if_neg other]
  rfl

theorem enclose_append (quote : Char) (text rest : List Char) :
    enclose quote text ++ rest = quote :: (doubled quote text ++ quote :: rest) := by
  rw [enclose, List.cons_append, List.append_assoc, List.singleton_append]

end DerivedFields.Text
