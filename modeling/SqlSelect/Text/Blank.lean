namespace SqlSelect.Text

/-- The characters with the Unicode property White_Space. -/
def isBlank (c : Char) : Bool :=
  let n := c.toNat
  (0x09 ≤ n && n ≤ 0x0D) || n == 0x20 || n == 0x85 || n == 0xA0 || n == 0x1680 ||
    (0x2000 ≤ n && n ≤ 0x200A) || n == 0x2028 || n == 0x2029 || n == 0x202F || n == 0x205F ||
    n == 0x3000

def extendRuns (c : Char) (cs : List Char) (later : List (List Char)) : List (List Char) :=
  match cs.head?, later with
  | some d, run :: rest => if isBlank d then [c] :: run :: rest else (c :: run) :: rest
  | _, rest => [c] :: rest

def runs : List Char → List (List Char)
  | [] => []
  | c :: cs => if isBlank c then runs cs else extendRuns c cs (runs cs)

theorem mem_extendRuns (c : Char) (cs run : List Char) (later : List (List Char))
    (member : run ∈ extendRuns c cs later) :
    run ∈ later ∨ run = [c] ∨ ∃ first ∈ later, run = c :: first := by
  unfold extendRuns at member
  split at member
  · split at member <;> simp_all <;> grind
  · simp_all; grind

theorem runs_blank_cons (c : Char) (cs : List Char) (blank : isBlank c = true) :
    runs (c :: cs) = runs cs := by
  simp [runs, blank]

theorem runs_blank_append (blanks cs : List Char) (blank : ∀ c ∈ blanks, isBlank c = true) :
    runs (blanks ++ cs) = runs cs := by
  induction blanks with
  | nil => rfl
  | cons c blanks ih =>
    rw [List.cons_append, runs_blank_cons _ _ (blank c (by simp))]
    exact ih fun d member => blank d (List.mem_cons_of_mem _ member)

theorem ne_nil_of_mem_runs (cs run : List Char) (member : run ∈ runs cs) : run ≠ [] := by
  induction cs generalizing run with
  | nil => simp [runs] at member
  | cons c cs ih =>
    rw [runs] at member
    split at member
    · exact ih run member
    · rcases mem_extendRuns c cs run _ member with member | rfl | ⟨first, _, rfl⟩
      · exact ih run member
      · simp
      · simp

theorem not_blank_of_mem_runs (cs run : List Char) (member : run ∈ runs cs) :
    ∀ c ∈ run, isBlank c = false := by
  induction cs generalizing run with
  | nil => simp [runs] at member
  | cons c cs ih =>
    rw [runs] at member
    split at member
    · exact ih run member
    · rcases mem_extendRuns c cs run _ member with member | rfl | ⟨first, inside, rfl⟩
      · exact ih run member
      · simp_all
      · have := ih first inside
        simp_all

def strip (cs : List Char) : List Char :=
  ((cs.dropWhile isBlank).reverse.dropWhile isBlank).reverse

def words (text : String) : List String := (runs text.toList).map String.ofList

def trim (text : String) : String := String.ofList (strip text.toList)

def isAllBlank (text : String) : Bool := text.toList.all isBlank

def cut (mark : Char) : List Char → Option (List Char × List Char)
  | [] => none
  | c :: cs =>
    if c = mark then some ([], cs)
    else (cut mark cs).map fun (left, right) => (c :: left, right)

theorem cut_eq_some_iff (mark : Char) (cs left right : List Char) :
    cut mark cs = some (left, right) ↔ cs = left ++ mark :: right ∧ mark ∉ left := by
  induction cs generalizing left with
  | nil => simp [cut]
  | cons c cs ih =>
    by_cases found : c = mark
    · cases left with
      | nil => simp [cut, found]
      | cons d left => simp [cut, found]; grind
    · cases left with
      | nil => simp [cut, found]
      | cons d left => simp [cut, found, ih]; grind

theorem cut_eq_none_iff (mark : Char) (cs : List Char) : cut mark cs = none ↔ mark ∉ cs := by
  induction cs with
  | nil => simp [cut]
  | cons c cs ih =>
    by_cases found : c = mark
    · simp [cut, found]
    · simp [cut, found, ih, Ne.symm found]

end SqlSelect.Text
