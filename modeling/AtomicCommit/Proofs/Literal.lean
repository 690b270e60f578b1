import AtomicCommit.Wire.Command

/-!
# Names inside statements

How a server reads a string literal: a quote opens it, and inside it a backslash takes the next
character as it stands, two quotes are one, and a quote that stands alone ends it. The names in an
XA statement are written so that this reader ends each of them where it was meant to end and finds
the name again, whatever characters it is made of.

* **writing** — `toList_literal`: two replacements in succession, backslashes before quotes.
* **reading** — `scanLiteral_literal`: by induction on the text, whatever but a quote follows.
* **branches** — `Xid.branch_inj`: the name of a branch tells its global id and its qualifier.
-/

namespace AtomicCommit

namespace Wire

/-! ## Writing -/

/-- The text with a character written twice wherever it stands. -/
def doubled (c : Char) (text : List Char) : List Char :=
  text.flatMap fun d => if d = c then [d, d] else [d]

/-- The quotes that the second replacement doubles are those of the text: the first one brings none,
and the second leaves every backslash alone. -/
theorem doubled_doubled (text : List Char) :
    doubled '\'' (doubled '\\' text) = text.flatMap literalChar := by
  unfold doubled
  rw [List.flatMap_assoc]
  congr 1
  funext c
  by_cases backslash : c = '\\'
  · subst backslash
    rfl
  by_cases quote : c = '\''
  · subst quote
    rfl
  simp [literalChar, backslash, quote]

/-- **Writing.** -/
theorem toList_literal (text : String) :
    (literal text).toList = '\'' :: (doubled '\'' (doubled '\\' text.toList) ++ ['\'']) := by
  simp only [doubled_doubled, literal, String.toList_append, String.toList_ofList,
    List.append_assoc]
  rfl

/-! ## Reading -/

/-- Read a literal whose quote is open: what it stands for, and what follows its closing quote. -/
def scanOpen : List Char → Option (List Char × List Char)
  | [] => none
  | '\'' :: '\'' :: rest => (scanOpen rest).map fun (text, behind) => ('\'' :: text, behind)
  | '\'' :: rest => some ([], rest)
  | '\\' :: c :: rest => (scanOpen rest).map fun (text, behind) => (c :: text, behind)
  | c :: rest => (scanOpen rest).map fun (text, behind) => (c :: text, behind)

/-- Read the literal at the front: what it stands for, and what follows its closing quote. -/
def scanLiteral : List Char → Option (List Char × List Char)
  | '\'' :: rest => scanOpen rest
  | _ => none

/-- A quote that no other follows ends the literal. -/
theorem scanOpen_quote {rest : List Char} (single : rest.head? ≠ some '\'') :
    scanOpen ('\'' :: rest) = some ([], rest) := by
  cases rest with
  | nil => rfl
  | cons c rest =>
    have other : c ≠ '\'' := fun same => single (congrArg some same)
    simp [scanOpen, other]

/-- The form of a character stands for the character. -/
theorem scanOpen_literalChar (c : Char) (rest : List Char) :
    scanOpen (literalChar c ++ rest) =
      (scanOpen rest).map fun (text, behind) => (c :: text, behind) := by
  unfold literalChar
  split
  · rfl
  · rfl
  · rename_i backslash quote
    rw [List.singleton_append, scanOpen.eq_def]
    split <;> simp_all

/-- The closing quote is found behind any text, since those in the text are written twice and no
backslash takes it. -/
theorem scanOpen_text (text : List Char) {rest : List Char} (single : rest.head? ≠ some '\'') :
    scanOpen (text.flatMap literalChar ++ '\'' :: rest) = some (text, rest) := by
  induction text with
  | nil => exact scanOpen_quote single
  | cons c text ih =>
    rw [List.flatMap_cons, List.append_assoc, scanOpen_literalChar, ih]
    rfl

/-- **Reading.** A literal is read back, and ends where it was meant to. -/
theorem scanLiteral_literal (text : String) {rest : List Char} (single : rest.head? ≠ some '\'') :
    scanLiteral ((literal text).toList ++ rest) = some (text.toList, rest) := by
  rw [toList_literal, doubled_doubled]
  show scanOpen (text.toList.flatMap literalChar ++ ['\''] ++ rest) = _
  rw [List.append_assoc]
  exact scanOpen_text text.toList single

/-! ## Branches -/

theorem Xid.toList_branch (xid : Xid) (qualifier : String) :
    (xid.branch qualifier).toList =
      (literal xid.global).toList ++ ',' :: (literal qualifier).toList := by
  rw [Xid.branch, String.toList_append, String.toList_append, List.append_assoc]
  rfl

/-- The first literal of a branch ends at the comma. -/
theorem Xid.scanLiteral_branch (xid : Xid) (qualifier : String) :
    scanLiteral (xid.branch qualifier).toList =
      some (xid.global.toList, ',' :: (literal qualifier).toList) := by
  rw [Xid.toList_branch]
  exact scanLiteral_literal xid.global (by simp)

/-- The second one ends at the end. -/
theorem scanLiteral_last (text : String) :
    scanLiteral (literal text).toList = some (text.toList, []) := by
  have last := @scanLiteral_literal text [] (by simp)
  rwa [List.append_nil] at last

/-- **Branches.** The name of a branch tells its global id and its qualifier. -/
theorem Xid.branch_inj {xid xid' : Xid} {qualifier qualifier' : String}
    (same : xid.branch qualifier = xid'.branch qualifier') :
    xid = xid' ∧ qualifier = qualifier' := by
  have first := congrArg (fun text : String => scanLiteral text.toList) same
  simp only [Xid.scanLiteral_branch, Option.some.injEq, Prod.mk.injEq, List.cons.injEq,
    true_and] at first
  obtain ⟨globals, rests⟩ := first
  have second := congrArg scanLiteral rests
  simp only [scanLiteral_last, Option.some.injEq, Prod.mk.injEq, and_true] at second
  exact ⟨Xid.mk.injEq _ _ ▸ String.toList_inj.mp globals, String.toList_inj.mp second⟩

end Wire

open Wire

/-- **Names cannot break a statement.** An XA command is its keyword, a space, and two literals with
a comma between them. Whatever the global id and the qualifier are made of, a reader of literals
ends the first one at the comma, and the second one where the statement ends, and has the id and
the qualifier then. So no two pairs are written alike. -/
theorem xa_statement_is_read_back {kind : CommandKind} (isXa : kind.isXa = true) (xid : Xid)
    (qualifier : String) :
    ∃ sql first second, Command.ofKind kind (some xid) qualifier = .ok ⟨kind, sql⟩ ∧
      sql.toList = kind.keyword.toList ++ ' ' :: (first ++ ',' :: second) ∧
      scanLiteral (first ++ ',' :: second) = some (xid.global.toList, ',' :: second) ∧
      scanLiteral second = some (qualifier.toList, []) ∧
      ∀ xid' qualifier', xid'.branch qualifier' = xid.branch qualifier →
        xid' = xid ∧ qualifier' = qualifier := by
  refine ⟨kind.keyword ++ " " ++ xid.branch qualifier, (literal xid.global).toList,
    (literal qualifier).toList, ?_, ?_, ?_, scanLiteral_last qualifier, fun _ _ => Xid.branch_inj⟩
  · exact if_pos isXa
  · have gap : " ".toList = [' '] := rfl
    rw [String.toList_append, String.toList_append, Xid.toList_branch, List.append_assoc, gap,
      List.singleton_append]
  · rw [← Xid.toList_branch]
    exact xid.scanLiteral_branch qualifier

/-- The case of an id that ends in a backslash, and a qualifier that tries to end its literal. -/
theorem hostile_names_are_read_back :
    ∃ first second, "XA COMMIT 'x\\\\',''',''\\\\'''".toList =
        "XA COMMIT".toList ++ ' ' :: (first ++ ',' :: second) ∧
      scanLiteral (first ++ ',' :: second) = some (['x', '\\'], ',' :: second) ∧
      scanLiteral second = some (['\'', ',', '\'', '\\', '\''], []) := by
  obtain ⟨sql, first, second, worded, form, id, qualifier, -⟩ :=
    @xa_statement_is_read_back .xaCommit rfl ⟨"x\\"⟩ "','\\'"
  obtain rfl : "XA COMMIT 'x\\\\',''',''\\\\'''" = sql :=
    congrArg Command.sql (Except.ok.inj worded)
  exact ⟨first, second, form, id, qualifier⟩

end AtomicCommit
