import RelayBench.Proofs.Log.JsonReading

/-! What a JSON line tells.  It is one line, whatever the texts in it, and a reader finds in it just the values
of the entry that was written. -/
namespace RelayBench

namespace Json

/-! No control character is printed. -/

/-- A text without the characters below the space, which would break a line. -/
def Unbroken (text : List Char) : Prop := ∀ c ∈ text, 32 ≤ c.toNat

instance (text : List Char) : Decidable (Unbroken text) :=
  decidable_of_iff (text.all fun c => 32 ≤ c.toNat) (by simp [Unbroken])

theorem Unbroken.append {first second : List Char} (here : Unbroken first) (there : Unbroken second) :
    Unbroken (first ++ second) :=
  List.forall_mem_append.mpr ⟨here, there⟩

theorem Unbroken.cons {c : Char} {text : List Char} (here : 32 ≤ c.toNat) (there : Unbroken text) :
    Unbroken (c :: text) :=
  List.forall_mem_cons.mpr ⟨here, there⟩

theorem unbroken_hexDigits (width n : Nat) : Unbroken (Text.hexDigits width n) := by
  have digit : ∀ n < 16, 32 ≤ (Text.hexDigit n).toNat := by decide
  induction width generalizing n with
  | zero => exact List.forall_mem_nil _
  | succ width ih => exact (ih _).append (.cons (digit _ (Nat.mod_lt _ (by decide))) (List.forall_mem_nil _))

theorem unbroken_pair {c : Char} (shown : 32 ≤ c.toNat) : Unbroken ['\\', c] :=
  .cons (by decide) (.cons shown (List.forall_mem_nil _))

theorem unbroken_escapeChar (c : Char) : Unbroken (escapeChar c) := by
  unfold escapeChar
  split_ifs with quotation backslash newline back tab backspace feed control
  iterate 7 exact unbroken_pair (by decide)
  · exact .cons (by decide) (.cons (by decide) (unbroken_hexDigits 4 c.toNat))
  · exact .cons (Nat.le_of_not_lt control) (List.forall_mem_nil _)

theorem unbroken_string (text : String) : Unbroken (string text).toList := by
  have inner : Unbroken (text.toList.flatMap escapeChar) := by
    rintro c member
    obtain ⟨source, _, here⟩ := List.mem_flatMap.mp member
    exact unbroken_escapeChar source c here
  rw [toList_string]
  exact .cons (by decide) (inner.append (.cons (by decide) (List.forall_mem_nil _)))

theorem unbroken_toString (n : Int) : Unbroken (toString n).toList := by
  have digits : Unbroken (Nat.toDigits 10 n.natAbs) := by
    intro c member
    have digit := Nat.isDigit_of_mem_toDigits (by decide) (by decide) member
    have above : '0'.toNat ≤ c.toNat := of_decide_eq_true (Bool.and_eq_true_iff.mp digit).1
    exact Nat.le_trans (by decide) above
  rw [toList_toString]
  split_ifs with negative
  · exact .cons (by decide) digits
  · exact digits

mutual

theorem unbroken_value : ∀ datum : Datum, isPlain datum = true → Unbroken (value datum).toList
  | .none, _ => by decide
  | .bool true, _ => by decide
  | .bool false, _ => by decide
  | .int n, _ => unbroken_toString n
  | .text s, _ => unbroken_string s
  | .list items, plain => by
    rw [toList_list]
    exact .cons (by decide) ((unbroken_values items plain).append (.cons (by decide) (List.forall_mem_nil _)))
  | .record fields, plain => by
    rw [toList_record]
    exact .cons (by decide) ((unbroken_members fields plain).append (.cons (by decide) (List.forall_mem_nil _)))

theorem unbroken_values : ∀ items : List Datum, arePlain items = true → Unbroken (joined (values items))
  | [], _ => List.forall_mem_nil _
  | [item], plain => by
    rw [values, values, joined_singleton]
    exact unbroken_value item (Bool.and_eq_true_iff.mp plain).1
  | item :: next :: items, plain => by
    obtain ⟨here, later⟩ := Bool.and_eq_true_iff.mp plain
    rw [joined_values]
    exact (unbroken_value item here).append
      (.cons (by decide) (.cons (by decide) (unbroken_values (next :: items) later)))

theorem unbroken_members : ∀ fields : List (String × Datum), arePlainMembers fields = true →
    Unbroken (joined (members fields))
  | [], _ => List.forall_mem_nil _
  | [(name, item)], plain => by
    rw [joined_member]
    exact (unbroken_string name).append
      (.cons (by decide) (.cons (by decide) (unbroken_value item (Bool.and_eq_true_iff.mp plain).1)))
  | (name, item) :: next :: fields, plain => by
    obtain ⟨here, later⟩ := Bool.and_eq_true_iff.mp plain
    rw [joined_members]
    exact ((unbroken_string name).append
        (.cons (by decide) (.cons (by decide) (unbroken_value item here)))).append
      (.cons (by decide) (.cons (by decide) (unbroken_members (next :: fields) later)))

end

end Json

namespace Report

/-- Of a note on a peer, the name is shown unless it is empty, and the number of peers whenever it is known. -/
theorem filter_context (peer : String) (count : Option Int) :
    (PeerNote.context { peer, count }).filter (fun field => isShown field.2) =
      (if peer = "" then [] else [("peer", .text peer)]) ++
        (count.elim [] fun n => [("peer_count", .int n)]) := by
  by_cases unnamed : peer = "" <;> cases count <;> simp [PeerNote.context, isShown, unnamed]

theorem insert_fresh {context : Context} {name : String} (fresh : name ∉ context.map Prod.fst) (datum : Datum) :
    Context.insert context name datum = context ++ [(name, datum)] := by
  induction context with
  | nil => rfl
  | cons field rest ih =>
    rw [List.map_cons, List.mem_cons, not_or] at fresh
    rw [Context.insert, if_neg (Ne.symm fresh.1), ih fresh.2, List.cons_append]

/-- Fields with names of their own are added at the end, one after the other. -/
theorem foldl_insert (fields : Context) : ∀ {context : Context}, ((context ++ fields).map Prod.fst).Nodup →
    fields.foldl (fun context field => Context.insert context field.1 field.2) context = context ++ fields := by
  induction fields with
  | nil => intro context _; rw [List.append_nil]; rfl
  | cons field rest ih =>
    intro context distinct
    have fresh : field.1 ∉ context.map Prod.fst := by
      rw [List.map_append, List.map_cons] at distinct
      exact fun member => (List.nodup_append.mp distinct).2.2 _ member _ List.mem_cons_self rfl
    rw [List.foldl_cons, insert_fresh fresh, ih (by simpa using distinct), List.append_assoc, List.singleton_append]

/-- Values under names of their own are told in the order in which they come, the words on a fault last. -/
theorem fieldsWith_of_distinct (report : Report) {extra : Context} {exception : Option String}
    (shown : report.extra.filter (fun field => isShown field.2) = extra)
    (distinct : ((report.basis ++ extra ++
      (exception.elim [] fun words => [("exception", Datum.text words)])).map Prod.fst).Nodup) :
    report.fieldsWith exception =
      report.basis ++ extra ++ (exception.elim [] fun words => [("exception", Datum.text words)]) := by
  rw [List.map_append] at distinct
  obtain ⟨inner, _, fresh⟩ := List.nodup_append.mp distinct
  unfold fieldsWith
  rw [shown, foldl_insert extra inner]
  cases exception with
  | none => exact (List.append_nil _).symm
  | some words => exact insert_fresh (fun member => fresh _ member _ List.mem_cons_self rfl) (.text words)

/-- The line on an entry with a note on a peer is one line, whatever texts it holds and whatever words tell of a
fault.  It reads back as the six values of every entry, and after them the peer if it has a name, the number of
peers if it is known and the words on the fault if there was one; no name stands there twice. -/
theorem decoded_of_line (moment : Moment) (weight : Int) (site : Site) (message peer : String) (count : Option Int)
    (fault : Option Fault) :
    let report : Report := { moment, weight, site, message, extra := PeerNote.context { peer, count }, fault }
    report.render = report.renderWith (fault.map Fault.report) ∧
    ∀ exception : Option String,
      let line := report.renderWith exception
      let told : Context :=
        [("timestamp", .text moment.text), ("level", .text (Level.nameOf weight)),
          ("module", .text site.moduleName),
          ("function", match site.function with | some name => .text name | none => .none),
          ("line", .int site.line), ("message", .text message)] ++
        ((if peer = "" then [] else [("peer", .text peer)]) ++
          (count.elim [] fun n => [("peer_count", .int n)])) ++
        (exception.elim [] fun words => [("exception", .text words)])
      (∀ c ∈ line.toList, 32 ≤ c.toNat) ∧ Json.decode? line = some (.record told) ∧
        (told.map Prod.fst).Nodup := by
  intro report
  refine ⟨rfl, fun exception => ?_⟩
  intro line told
  have distinct : (told.map Prod.fst).Nodup := by
    by_cases unnamed : peer = "" <;> cases count <;> cases exception <;> simp [told, unnamed]
  have same : report.fieldsWith exception = told :=
    fieldsWith_of_distinct report (filter_context peer count) distinct
  have plain : Json.isPlain (.record told) = true := by
    have function : Json.isPlain (match site.function with | some name => .text name | none => .none) = true := by
      cases site.function <;> rfl
    by_cases unnamed : peer = "" <;> cases count <;> cases exception <;>
      simp [told, unnamed, function, Json.isPlain, Json.arePlainMembers]
  have printed : line = Json.value (.record told) := congrArg (fun fields => Json.value (.record fields)) same
  rw [printed]
  exact ⟨Json.unbroken_value _ plain, Json.decode?_value plain, distinct⟩

end Report
end RelayBench
