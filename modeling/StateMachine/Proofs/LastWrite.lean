import Mathlib.Data.List.Induction

namespace StateMachine

private theorem findRev?_snoc {α : Type} (counts : α → Bool) (items : List α) (last : α) :
    (items ++ [last]).findRev? counts = if counts last then some last else items.findRev? counts := by
  simp only [List.findRev?_eq_find?_reverse, List.reverse_append, List.reverse_singleton,
    List.singleton_append, List.find?_cons]
  cases counts last <;> rfl

section Reading

variable {State Write Content : Type} (write : State → Write → State) (read : State → Option Content)
  {content : Write → Option Content} {counts : Write → Bool} {valid : State → Prop}

/-- If one write is read as it was written, then after any number of writes the last one is read, among
those that count for the reading. -/
theorem read_foldl (keeps : ∀ state item, valid state → valid (write state item))
    (own : ∀ state item, valid state → counts item = true → read (write state item) = content item)
    (other : ∀ state item, valid state → counts item = false → read (write state item) = read state)
    {first : State} (begins : valid first) (empty : read first = none) (items : List Write) :
    read (items.foldl write first) = (items.findRev? counts).bind content := by
  -- From the right, since it is the last write that counts or leaves the reading as it was before.
  induction items using List.reverseRecOn with
  | nil => exact empty
  | append_singleton items last ih =>
    have before : valid (items.foldl write first) :=
      items.foldlRecOn write begins fun state kept item _ => keeps state item kept
    rw [List.foldl_append, List.foldl_cons, List.foldl_nil, findRev?_snoc]
    cases counted : counts last with
    | true => exact own _ last before counted
    | false => exact (other _ last before counted).trans ih

end Reading

end StateMachine
