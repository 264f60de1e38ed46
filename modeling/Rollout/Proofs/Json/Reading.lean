import Rollout.Json.Printer
import Rollout.Json.Reader
import Rollout.Proofs.Json.Spelling

/-!
# Reading what was written

A value whose texts and numbers are well spelled (`Json.IsValue`) is read back from its compact form
as it is (`Json.read_render`), whatever it is made of. The proof follows the value: wherever the form
of a value begins, the reader goes through it and comes to stand behind it with the value in its
place (`Json.Reads`).
-/

namespace Rollout.Json

/-! ## Values -/

/-- A value in which all texts, names and numbers are well spelled, and no place is faulty. -/
inductive IsValue : Json → Prop where
  | null : IsValue .null
  | bool {b} : IsValue (.bool b)
  | number {s} : IsNumber s.toList → IsValue (.number s)
  | string {s} : Quoted.IsSpelled s.toList → IsValue (.string s)
  | array {l} : (∀ j ∈ l, IsValue j) → IsValue (.array l)
  | object {l} :
    (∀ m ∈ l, Quoted.IsSpelled m.1.toList) → (∀ m ∈ l, IsValue m.2) → IsValue (.object l)

variable {j : Json} {l : List Json} {members : List (String × Json)} {s : String}

lemma isValue_text (s : String) : (Json.text s).IsValue := .string (Quoted.isSpelled_spell s)

lemma isValue_nat (n : Nat) : (Json.nat n).IsValue := .number (isNumber_toString n)

lemma isValue_text? {s : Option String} : (Json.text? s).IsValue := by
  cases s with
  | none => exact .null
  | some s => exact isValue_text s

lemma soundItems_iff : soundItems l = true ↔ ∀ j ∈ l, j.sound = true := by
  induction l with
  | nil => simp [soundItems]
  | cons j l ih => simp [soundItems, ih]

lemma soundMembers_iff : soundMembers members = true ↔ ∀ m ∈ members, m.2.sound = true := by
  induction members with
  | nil => simp [soundMembers]
  | cons m l ih => simp [soundMembers, ih]

/-- Such a value is sound. -/
lemma IsValue.sound (h : j.IsValue) : j.sound = true := by
  induction h with
  | null | bool | number | string => rfl
  | array _ ih => exact soundItems_iff.2 ih
  | object _ _ ih => exact soundMembers_iff.2 ih

/-! ## Tokens -/

namespace Token

variable {cs r : List Char}

/-- What belongs to a token is passed over. -/
lemma cut_length : cut cs.length (cs ++ r) = cut 0 r := by
  induction cs with
  | nil => rfl
  | cons c cs ih => exact ih

/-- A token that begins somewhere is followed by what comes after it. -/
lemma cut_of_begin? {c : Char} {t : Token} {n : Nat} (hc : isSpace c = false)
    (h : begin? c r = some (t, n)) : cut 0 (c :: r) = t :: cut n r := by
  rw [cut, hc, h]
  rfl

/-- A text in its quotes is one token. -/
lemma cut_quoted (h : Quoted.IsSpelled cs) :
    cut 0 ('"' :: (cs ++ '"' :: r)) = quoted (String.ofList cs) :: cut 0 r := by
  have hbegin : begin? '"' (cs ++ '"' :: r) = some (quoted (String.ofList cs), cs.length + 1) := by
    simp [begin?, quotedLength?_of_isSpelled h]
  have hrest : cut (cs ++ ['"']).length ((cs ++ ['"']) ++ r) = cut 0 r := cut_length
  rw [List.length_append, List.append_assoc] at hrest
  rw [cut_of_begin? (by decide) hbegin]
  exact congrArg _ hrest

/-- What begins with a digit or a minus can only be a number. -/
lemma begin?_of_isDigit {c : Char} (hc : c.isDigit = true ∨ c = '-') :
    begin? c r = (numberLength? (c :: r)).map fun n =>
      (scalar (.number (String.ofList ((c :: r).take n))), n - 1) := by
  rw [begin?.eq_def]
  split
  case h_11 => rfl
  all_goals exact absurd hc (by decide)

/-- A number is one token. -/
lemma cut_number (h : IsNumber cs) (hr : EndsNumber r) :
    cut 0 (cs ++ r) = scalar (.number (String.ofList cs)) :: cut 0 r := by
  have hlen := numberLength?_of_isNumber h hr
  obtain ⟨c, cs, rfl, hc⟩ : ∃ c cs', cs = c :: cs' ∧ (c.isDigit = true ∨ c = '-') := by
    cases h with
    | positive h =>
      obtain ⟨c, r, hcs, hc⟩ := exists_digit_of_isMagnitude h
      exact ⟨c, r, hcs, .inl hc⟩
    | negative h => exact ⟨_, _, rfl, .inr rfl⟩
  have hspace : isSpace c = false := by
    simp only [isSpace, Bool.or_eq_false_iff, decide_eq_false_iff_not]
    refine ⟨⟨⟨?_, ?_⟩, ?_⟩, ?_⟩ <;> rintro rfl <;> exact absurd hc (by decide)
  have hbegin : begin? c (cs ++ r) =
      some (scalar (.number (String.ofList (c :: cs))), cs.length) := by
    rw [List.cons_append] at hlen
    rw [begin?_of_isDigit hc, hlen, Option.map_some, List.length_cons, List.take_succ_cons,
      List.take_left]
    rfl
  rw [List.cons_append, cut_of_begin? hspace hbegin, cut_length]

end Token

/-! ## The parts of a form -/

lemma render_number : render (.number s) = s := rfl

lemma render_string : render (.string s) = "\"" ++ s ++ "\"" := rfl

lemma render_array_cons : render (.array (j :: l)) = "[" ++ render j ++ renderItems l ++ "]" := rfl

lemma renderItems_cons : renderItems (j :: l) = "," ++ render j ++ renderItems l := rfl

lemma render_object_cons :
    render (.object ((s, j) :: members)) =
      "\x7b\"" ++ s ++ "\":" ++ render j ++ renderMembers members ++ "\x7d" := rfl

lemma renderMembers_cons :
    renderMembers ((s, j) :: members) =
      ",\"" ++ s ++ "\":" ++ render j ++ renderMembers members := rfl

/-! ## Reading on -/

/-- Read on from where a reader stands after a value. -/
def resume : Progress → List Token → Reading
  | .whole v, ts => ⟨v, !ts.isEmpty⟩
  | .open stack next, ts => readOn stack next ts

/-- Whether a value may come next. -/
def Expected.IsValue : Expected → Prop
  | .value | .itemOrClose => True
  | _ => False

variable {stack : List Frame} {next : Expected} {t : Token} {ts : List Token} {p : Progress}
  {r : List Char}

lemma readOn_cons (h : take stack next t = some p) : readOn stack next (t :: ts) = resume p ts := by
  rw [readOn, h]
  cases p <;> rfl

/-- The form of a value is gone through, wherever it stands, and the value is put in its place. -/
def Reads (j : Json) : Prop :=
  ∀ stack next r, next.IsValue → EndsNumber r →
    readOn stack next (Token.cut 0 ((render j).toList ++ r)) =
      resume (complete j stack) (Token.cut 0 r)

lemma take_scalar (v : Json) (hn : next.IsValue) :
    take stack next (.scalar v) = some (complete v stack) := by
  cases next <;> first | rfl | cases hn

lemma take_quoted (s : String) (hn : next.IsValue) :
    take stack next (.quoted s) = some (complete (.string s) stack) := by
  cases next <;> first | rfl | cases hn

lemma take_openBracket (hn : next.IsValue) :
    take stack next .openBracket = some (.open (.array [] :: stack) .itemOrClose) := by
  cases next <;> first | rfl | cases hn

lemma take_openBrace (hn : next.IsValue) :
    take stack next .openBrace = some (.open (.object [] none :: stack) .nameOrClose) := by
  cases next <;> first | rfl | cases hn

/-! ### Values of one token -/

lemma reads_null : Json.null.Reads := fun _ _ _ hn _ => readOn_cons (take_scalar .null hn)

lemma reads_bool (b : Bool) : (Json.bool b).Reads := fun _ _ _ hn _ => by
  cases b with
  | false => exact readOn_cons (take_scalar (.bool false) hn)
  | true => exact readOn_cons (take_scalar (.bool true) hn)

lemma reads_number (h : IsNumber s.toList) : (Json.number s).Reads := fun _ _ _ hn hr => by
  rw [render_number, Token.cut_number h hr, String.ofList_toList, readOn_cons (take_scalar _ hn)]

/-- A name or a text, which is followed by its closing quote. -/
lemma cut_quotes (h : Quoted.IsSpelled s.toList) :
    Token.cut 0 ("\"".toList ++ (s.toList ++ ("\"".toList ++ r))) =
      .quoted s :: Token.cut 0 r := by
  have hcut := Token.cut_quoted (r := r) h
  rw [String.ofList_toList] at hcut
  exact hcut

lemma reads_string (h : Quoted.IsSpelled s.toList) : (Json.string s).Reads := fun _ _ _ hn _ => by
  rw [render_string, String.toList_append, String.toList_append, List.append_assoc,
    List.append_assoc, cut_quotes h, readOn_cons (take_quoted _ hn)]

/-! ### Arrays -/

/-- The mark after an item ends it. -/
lemma endsNumber_renderItems : EndsNumber ((renderItems l).toList ++ ']' :: r) := by
  cases l with
  | nil =>
    intro c hc
    cases hc
    exact .inr (.inl rfl)
  | cons j l =>
    intro c hc
    rw [renderItems_cons, String.toList_append, String.toList_append] at hc
    cases hc
    exact .inl rfl

/-- The further items of an array are gone through up to its end. -/
lemma readOn_renderItems (stack : List Frame) (r : List Char) (h : ∀ j ∈ l, j.Reads)
    (items : List Json) :
    readOn (.array items :: stack) .separator
        (Token.cut 0 ((renderItems l).toList ++ ']' :: r)) =
      resume (complete (.array (items.reverse ++ l)) stack) (Token.cut 0 r) := by
  induction l generalizing items with
  | nil =>
    rw [List.append_nil]
    exact readOn_cons rfl
  | cons j l ih =>
    have hcomma : readOn (.array items :: stack) .separator
        (.comma :: Token.cut 0 ((render j).toList ++ ((renderItems l).toList ++ ']' :: r))) =
          readOn (.array items :: stack) .value
            (Token.cut 0 ((render j).toList ++ ((renderItems l).toList ++ ']' :: r))) :=
      readOn_cons (p := .open _ .value) rfl
    have hitem := h j List.mem_cons_self (.array items :: stack) .value
      ((renderItems l).toList ++ ']' :: r) trivial endsNumber_renderItems
    have hrest := ih (fun i hi => h i (List.mem_cons_of_mem _ hi)) (j :: items)
    rw [List.reverse_cons, List.append_assoc, List.singleton_append] at hrest
    rw [← hrest]
    rw [renderItems_cons, String.toList_append, String.toList_append, List.append_assoc,
      List.append_assoc]
    exact hcomma.trans hitem

/-- What closes an array is a bracket. -/
lemma toList_append_bracket {s : String} : (s ++ "]").toList ++ r = s.toList ++ ']' :: r := by
  simp

lemma reads_array (h : ∀ j ∈ l, j.Reads) : (Json.array l).Reads := by
  intro stack next r hn _
  cases l with
  | nil => exact (readOn_cons (take_openBracket hn)).trans (readOn_cons rfl)
  | cons j l =>
    have hitem := h j List.mem_cons_self (.array [] :: stack) .itemOrClose
      ((renderItems l).toList ++ ']' :: r) trivial endsNumber_renderItems
    have hrest := readOn_renderItems stack r
      (fun i hi => h i (List.mem_cons_of_mem _ hi)) [j]
    rw [render_array_cons, toList_append_bracket, String.toList_append, String.toList_append,
      List.append_assoc, List.append_assoc]
    exact (readOn_cons (take_openBracket hn)).trans (hitem.trans hrest)

/-! ### Objects -/

/-- The mark after a member ends its value. -/
lemma endsNumber_renderMembers (members : List (String × Json)) (r : List Char) :
    EndsNumber ((renderMembers members).toList ++ '\x7d' :: r) := by
  cases members with
  | nil =>
    intro c hc
    cases hc
    exact .inr (.inr rfl)
  | cons m l =>
    obtain ⟨k, j⟩ := m
    intro c hc
    rw [renderMembers_cons, String.toList_append, String.toList_append, String.toList_append,
      String.toList_append] at hc
    cases hc
    exact .inl rfl

/-- A member is gone through: its name, a colon, and its value. -/
lemma readOn_member (stack : List Frame) (members : List (String × Json)) {k : String}
    (hk : Quoted.IsSpelled k.toList) (h : j.Reads)
    (hr : EndsNumber r) (hn : next = .name ∨ next = .nameOrClose) :
    readOn (.object members none :: stack) next
        (Token.cut 0 ("\"".toList ++ (k.toList ++ ("\"".toList ++
          (":".toList ++ ((render j).toList ++ r)))))) =
      readOn (.object ((k, j) :: members) none :: stack) .separator (Token.cut 0 r) := by
  have hname : take (.object members none :: stack) next (.quoted k) =
      some (.open (.object members (some k) :: stack) .colon) := by
    obtain rfl | rfl := hn <;> rfl
  rw [cut_quotes hk, readOn_cons hname]
  have hvalue := h (.object members (some k) :: stack) .value r trivial hr
  have hcolon : take (.object members (some k) :: stack) .colon .colon =
      some (.open (.object members (some k) :: stack) .value) := rfl
  exact (readOn_cons hcolon).trans hvalue

/-- The further members of an object are gone through up to its end. -/
lemma readOn_renderMembers (stack : List Frame) (r : List Char) {l : List (String × Json)}
    (hk : ∀ m ∈ l, Quoted.IsSpelled m.1.toList)
    (h : ∀ m ∈ l, m.2.Reads) (members : List (String × Json)) :
    readOn (.object members none :: stack) .separator
        (Token.cut 0 ((renderMembers l).toList ++ '\x7d' :: r)) =
      resume (complete (.object (members.reverse ++ l)) stack) (Token.cut 0 r) := by
  induction l generalizing members with
  | nil =>
    rw [List.append_nil]
    exact readOn_cons rfl
  | cons m l ih =>
    obtain ⟨k, j⟩ := m
    have hmember := readOn_member stack members (hk _ List.mem_cons_self)
      (h _ List.mem_cons_self) (endsNumber_renderMembers l r) (.inl rfl)
    have hrest := ih (fun m hm => hk m (List.mem_cons_of_mem _ hm))
      (fun m hm => h m (List.mem_cons_of_mem _ hm)) ((k, j) :: members)
    rw [List.reverse_cons, List.append_assoc, List.singleton_append] at hrest
    have htext : (renderMembers ((k, j) :: l)).toList ++ '\x7d' :: r =
        ',' :: ("\"".toList ++ (k.toList ++ ("\"".toList ++ (":".toList ++ ((render j).toList ++
          ((renderMembers l).toList ++ '\x7d' :: r)))))) := by
      simp [renderMembers_cons]
    rw [htext, ← hrest, ← hmember]
    exact readOn_cons (p := .open _ .name) rfl

lemma reads_object (hk : ∀ m ∈ members, Quoted.IsSpelled m.1.toList)
    (h : ∀ m ∈ members, m.2.Reads) : (Json.object members).Reads := by
  intro stack next r hn _
  cases members with
  | nil => exact (readOn_cons (take_openBrace hn)).trans (readOn_cons rfl)
  | cons m l =>
    obtain ⟨k, j⟩ := m
    have hmember := readOn_member stack [] (hk _ List.mem_cons_self)
      (h _ List.mem_cons_self) (endsNumber_renderMembers l r) (.inr rfl)
    have hrest := readOn_renderMembers stack r
      (fun m hm => hk m (List.mem_cons_of_mem _ hm))
      (fun m hm => h m (List.mem_cons_of_mem _ hm)) [(k, j)]
    have htext : (render (.object ((k, j) :: l))).toList ++ r =
        '\x7b' :: ("\"".toList ++ (k.toList ++ ("\"".toList ++ (":".toList ++ ((render j).toList ++
          ((renderMembers l).toList ++ '\x7d' :: r)))))) := by
      simp [render_object_cons]
    rw [htext]
    exact (readOn_cons (take_openBrace hn)).trans (hmember.trans hrest)

/-! ## Whole texts -/

/-- Every value is read where it stands. -/
lemma IsValue.reads (h : j.IsValue) : j.Reads := by
  induction h with
  | null => exact reads_null
  | bool => exact reads_bool _
  | number h => exact reads_number h
  | string h => exact reads_string h
  | array _ ih => exact reads_array ih
  | object hk _ ih => exact reads_object hk ih

/-- A value is read back from its compact form, and the text does not go on after it. -/
theorem read_render (h : j.IsValue) : read (render j) = ⟨j, false⟩ := by
  have hread := h.reads [] .value [] trivial nofun
  rw [List.append_nil] at hread
  exact hread

end Rollout.Json
