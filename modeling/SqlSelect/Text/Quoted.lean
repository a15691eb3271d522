namespace SqlSelect.Text

def double (mark : Char) : List Char → List Char
  | [] => []
  | c :: cs => if c = mark then mark :: mark :: double mark cs else c :: double mark cs

theorem count_double (mark c : Char) (cs : List Char) :
    (double mark cs).count c = (if c = mark then 2 else 1) * cs.count c := by
  induction cs with
  | nil => simp [double]
  | cons d cs ih => by_cases same : d = mark <;> by_cases found : c = d <;> grind [double]

def enclose (mark : Char) (cs : List Char) : String :=
  String.ofList (mark :: double mark cs ++ [mark])

@[simp] theorem toList_enclose (mark : Char) (cs : List Char) :
    (enclose mark cs).toList = mark :: double mark cs ++ [mark] := by
  simp [enclose]

def takeQuoted? (mark : Char) : List Char → Option (List Char × List Char)
  | [] => none
  | c :: cs =>
    if c = mark then
      match cs with
      | [] => some ([], [])
      | d :: ds =>
        if d = mark then (takeQuoted? mark ds).map fun (text, rest) => (mark :: text, rest)
        else some ([], d :: ds)
    else (takeQuoted? mark cs).map fun (text, rest) => (c :: text, rest)

theorem takeQuoted?_length (mark : Char) (cs text rest : List Char)
    (found : takeQuoted? mark cs = some (text, rest)) : rest.length < cs.length := by
  fun_induction takeQuoted? mark cs generalizing text with
  | case1 => cases found
  | case2 => cases found; simp
  | case3 ds ih =>
    simp only [Option.map_eq_some_iff, Prod.exists, Prod.mk.injEq] at found
    obtain ⟨inner, left, found, _, rfl⟩ := found
    have := ih inner found
    simp only [List.length_cons]
    omega
  | case4 => cases found; simp
  | case5 c cs other ih =>
    simp only [Option.map_eq_some_iff, Prod.exists, Prod.mk.injEq] at found
    obtain ⟨inner, left, found, _, rfl⟩ := found
    have := ih inner found
    simp only [List.length_cons]
    omega

theorem takeQuoted?_double (mark : Char) (cs rest : List Char) (lone : rest.head? ≠ some mark) :
    takeQuoted? mark (double mark cs ++ mark :: rest) = some (cs, rest) := by
  induction cs with
  | nil =>
    cases rest with
    | nil => simp [double, takeQuoted?]
    | cons d rest =>
      have other : d ≠ mark := by simpa using lone
      simp [double, takeQuoted?, other]
  | cons c cs ih =>
    by_cases same : c = mark
    · simp [double, takeQuoted?, same, ih]
    · simp only [double, same, if_false, List.cons_append]
      unfold takeQuoted?
      simp [same, ih]

end SqlSelect.Text
