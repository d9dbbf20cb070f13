import FederatedLogin.Proofs.Oidc.Identity
import FederatedLogin.Proofs.Text.Words

/-! # Names from a full name

A full name of several words is split after the first, whatever the blanks in it. One of a single
word, or of none, is taken as it is with the blanks at its ends, so that two ways to write one name
can make two names of it.
-/

namespace FederatedLogin.Oidc.Claims

variable {c c' : Claims} {i i' : Identity}

/-- Claims that leave the full name to be split, and their identity. -/
structure IsNamedInFull (c : Claims) (i : Identity) : Prop where
  givenName : c.givenName = ""
  familyName : c.familyName = ""
  identity : c.identity = .ok i

/-- The first word of a text and the others, joined by single blanks. -/
def wordNames (s : String) : String × String :=
  ((Text.words s).headD "", " ".intercalate (Text.words s).tail)

theorem words_wordNames (s : String) :
    Text.words (wordNames s).1 ++ Text.words (wordNames s).2 = Text.words s := by
  have hall : ∀ w ∈ Text.words s, Text.IsWord w := fun w => Text.isWord_of_mem_words
  rw [wordNames]
  cases hs : Text.words s with
  | nil => rfl
  | cons w ws =>
    rw [hs] at hall
    obtain ⟨hw, hws⟩ := List.forall_mem_cons.mp hall
    rw [List.headD_cons, List.tail_cons, hw.words_eq, Text.words_intercalate hws]
    rfl

theorem isTrimmed_wordNames (s : String) :
    Text.IsTrimmed (wordNames s).1 ∧ Text.IsTrimmed (wordNames s).2 := by
  have hall : ∀ w ∈ Text.words s, Text.IsWord w := fun w => Text.isWord_of_mem_words
  rw [wordNames]
  cases hs : Text.words s with
  | nil => constructor <;> rintro c (hc | hc) <;> cases hc
  | cons w ws =>
    rw [hs] at hall
    obtain ⟨hw, hws⟩ := List.forall_mem_cons.mp hall
    exact ⟨hw.isTrimmed, Text.isTrimmed_intercalate hws⟩

theorem wordNames_of_few {s : String} (h : (Text.words s).length < 2) :
    wordNames s = (Text.trim s, "") := by
  have htail : (Text.words s).tail = [] := by
    rw [← List.length_eq_zero_iff, List.length_tail]
    omega
  rw [wordNames, Text.trim_of_words_length_lt h, htail, String.intercalate_nil]

namespace IsNamedInFull

theorem names_eq (h : c.IsNamedInFull i) : (i.firstName, i.lastName) = c.splitName := by
  obtain ⟨-, -, rfl⟩ := identity_eq_ok_iff.mp h.identity
  rfl

theorem names_of_few (h : c.IsNamedInFull i) (hfew : (Text.words c.name).length < 2) :
    (i.firstName, i.lastName) = (c.name, "") := by
  rw [h.names_eq, splitName, h.givenName, h.familyName]
  match hwords : Text.words c.name with
  | [] => rfl
  | [w] => rfl
  | w :: v :: ws =>
    rw [hwords, List.length_cons, List.length_cons] at hfew
    omega

theorem names_of_many (h : c.IsNamedInFull i) (hmany : 2 ≤ (Text.words c.name).length) :
    (i.firstName, i.lastName) = wordNames c.name := by
  rw [h.names_eq, splitName, h.givenName, h.familyName, wordNames]
  match hwords : Text.words c.name with
  | [] | [w] =>
    rw [hwords] at hmany
    contradiction
  | w :: v :: ws => rfl

/-- The names are those of the words unless there are blanks around the one word. -/
theorem names_eq_wordNames_iff (h : c.IsNamedInFull i) :
    (i.firstName, i.lastName) = wordNames c.name ↔
      2 ≤ (Text.words c.name).length ∨ Text.trim c.name = c.name := by
  by_cases hmany : 2 ≤ (Text.words c.name).length
  · exact iff_of_true (h.names_of_many hmany) (.inl hmany)
  · have hfew := not_le.mp hmany
    rw [h.names_of_few hfew, wordNames_of_few hfew]
    simp [hmany, eq_comm]

theorem words_names (h : c.IsNamedInFull i) :
    Text.words i.firstName ++ Text.words i.lastName = Text.words c.name := by
  by_cases hmany : 2 ≤ (Text.words c.name).length
  · obtain ⟨hfirst, hlast⟩ := Prod.ext_iff.mp (h.names_of_many hmany)
    rw [← words_wordNames c.name, ← hfirst, ← hlast]
  · obtain ⟨hfirst, hlast⟩ := Prod.ext_iff.mp (h.names_of_few (not_le.mp hmany))
    dsimp only at hfirst hlast
    rw [hfirst, hlast]
    exact List.append_nil _

theorem isTrimmed_names_iff (h : c.IsNamedInFull i) :
    Text.IsTrimmed i.firstName ∧ Text.IsTrimmed i.lastName ↔
      2 ≤ (Text.words c.name).length ∨ Text.trim c.name = c.name := by
  by_cases hmany : 2 ≤ (Text.words c.name).length
  · obtain ⟨hfirst, hlast⟩ := Prod.ext_iff.mp (h.names_of_many hmany)
    dsimp only at hfirst hlast
    rw [hfirst, hlast]
    exact iff_of_true (isTrimmed_wordNames c.name) (.inl hmany)
  · obtain ⟨hfirst, hlast⟩ := Prod.ext_iff.mp (h.names_of_few (not_le.mp hmany))
    dsimp only at hfirst hlast
    have hempty : Text.IsTrimmed "" := by rintro a (ha | ha) <;> cases ha
    simp [hfirst, hlast, hempty, hmany, Text.trim_eq_self_iff]

/-- Two ways to write the same words make the same names if there are several words, or the ways are
the same. -/
theorem names_eq_iff (h : c.IsNamedInFull i) (h' : c'.IsNamedInFull i')
    (hwords : Text.words c'.name = Text.words c.name) :
    (i'.firstName, i'.lastName) = (i.firstName, i.lastName) ↔
      2 ≤ (Text.words c.name).length ∨ c'.name = c.name := by
  by_cases hmany : 2 ≤ (Text.words c.name).length
  · refine iff_of_true ?_ (.inl hmany)
    rw [h.names_of_many hmany, h'.names_of_many (by rwa [hwords]), wordNames, wordNames, hwords]
  · have hfew := not_le.mp hmany
    rw [h.names_of_few hfew, h'.names_of_few (by rwa [hwords])]
    simp [hmany]

end IsNamedInFull

/-- With neither a given nor a family name, the names hold the words of the full name in order. They
are its first word and the others, joined by single blanks, if it has several words or no blanks at
its ends, and in no other case: one word, or none, is the first name with the blanks around it, so
that it differs with them. -/
theorem fullName_split (h : c.IsNamedInFull i) :
    Text.words c.name =
      ((c.name.toList.splitOnP Text.isBlank).filter (!·.isEmpty)).map String.ofList ∧
    ((i.firstName, i.lastName) = wordNames c.name ↔
      2 ≤ (Text.words c.name).length ∨ Text.trim c.name = c.name) ∧
    ((Text.words c.name).length < 2 → (i.firstName, i.lastName) = (c.name, "")) ∧
    Text.words i.firstName ++ Text.words i.lastName = Text.words c.name ∧
    (Text.IsTrimmed i.firstName ∧ Text.IsTrimmed i.lastName ↔
      2 ≤ (Text.words c.name).length ∨ Text.trim c.name = c.name) ∧
    ∀ (c' : Claims) (i' : Identity), c'.IsNamedInFull i' →
      Text.words c'.name = Text.words c.name →
      ((i'.firstName, i'.lastName) = (i.firstName, i.lastName) ↔
        2 ≤ (Text.words c.name).length ∨ c'.name = c.name) :=
  ⟨Text.words_eq c.name, h.names_eq_wordNames_iff, h.names_of_few, h.words_names,
    h.isTrimmed_names_iff, fun _ _ h' => h.names_eq_iff h'⟩

def ofFullName (name : String) : Claims := ⟨"s", "", none, "", name, "", ""⟩

theorem isNamedInFull_ofFullName (name : String) :
    (ofFullName name).IsNamedInFull (ofFullName name).described where
  givenName := rfl
  familyName := rfl
  identity := identity_eq_ok_iff.mpr ⟨by simp [ofFullName], by simp [ofFullName], rfl⟩

/-- Several words, with blanks of all kinds. -/
theorem hopper_split : ∃ i, (ofFullName " Grace  Brewster\tHopper ").IsNamedInFull i ∧
    (i.firstName, i.lastName) = ("Grace", "Brewster Hopper") := by
  have h := isNamedInFull_ofFullName " Grace  Brewster\tHopper "
  have hnames := (fullName_split h).2.1.mpr (.inl (by decide +kernel))
  exact ⟨_, h, hnames.trans (by decide +kernel)⟩

/-- One word, with blanks at its ends. -/
theorem prince_keeps_blanks : ∃ i, (ofFullName " Prince ").IsNamedInFull i ∧
    Text.words (ofFullName " Prince ").name = ["Prince"] ∧
    (i.firstName, i.lastName) = (" Prince ", "") ∧
    (i.firstName, i.lastName) ≠ wordNames (ofFullName " Prince ").name ∧
    ∃ i', (ofFullName "Prince").IsNamedInFull i' ∧
      Text.words (ofFullName "Prince").name = ["Prince"] ∧ i'.firstName ≠ i.firstName := by
  refine ⟨_, isNamedInFull_ofFullName " Prince ", by decide +kernel, by decide +kernel,
    by decide +kernel, _, isNamedInFull_ofFullName "Prince", by decide +kernel, by decide +kernel⟩

end FederatedLogin.Oidc.Claims
