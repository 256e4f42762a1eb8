import RowParity.Proofs.Catalog.Completeness

/-!
# Refreshes and lost connections

A refresh fails only if no listing of the tables is answered, and then it leaves the schema as it
was. From the listing on nothing stops it, not even the loss of the connection: lookups that got no
answer are treated alike, whatever the reason, and a table none of whose lookups was answered is
installed without columns and without indexes (`renewSchemaOnce_unanswered`).
-/

namespace RowParity

variable {σ : Type}

namespace Introspection

/-! ## Lookups without answers -/

/-- All that may be asked about a table. -/
def questions (table : String) : List String :=
  ColumnSource.all.map (·.sql table) ++ [indexQuery table]

theorem ColumnSource.Tells.not_isRejected {table : String} {source : ColumnSource}
    {exchange : Exchange} {columns : List Column}
    (h : source.Tells table exchange (.ok columns)) : ¬exchange.IsRejected := by
  rintro ⟨e, he⟩
  rcases h.ok_cases with ⟨rows, rfl, -⟩ | ⟨rows, rfl, -⟩ | ⟨names, rfl, -⟩ <;> cases he

namespace Looked

variable {table : String} {sources : List ColumnSource} {exchanges : List Exchange}
  {columns : List Column}

theorem sql_mem (h : Looked table sources exchanges columns) :
    ∀ exchange ∈ exchanges, exchange.sql ∈ sources.map (·.sql table) := by
  induction h with
  | exhausted => exact List.forall_mem_nil _
  | found told _ =>
    rw [List.forall_mem_singleton, told.sql_eq]
    exact List.mem_cons_self
  | vain told _ _ ih =>
    refine List.forall_mem_cons.2 ⟨?_, fun exchange hexchange => ?_⟩
    · rw [told.sql_eq]
      exact List.mem_cons_self
    · exact List.mem_cons_of_mem _ (ih exchange hexchange)

theorem eq_nil_of_rejected (h : Looked table sources exchanges columns)
    (hrejected : ∀ exchange ∈ exchanges, exchange.IsRejected) : columns = [] := by
  induction h with
  | exhausted => rfl
  | found told _ => exact absurd (hrejected _ List.mem_cons_self) told.not_isRejected
  | vain _ _ _ ih =>
    exact ih fun exchange hexchange => hrejected exchange (List.mem_cons_of_mem _ hexchange)

end Looked

theorem TableRead.sql_mem {exchanges : List Exchange} {table : Table}
    (h : TableRead exchanges table) :
    ∀ exchange ∈ exchanges, exchange.sql ∈ questions table.name := by
  cases h with
  | intro looked =>
    refine List.forall_mem_append.2 ⟨fun exchange hexchange => ?_, ?_⟩
    · exact List.mem_append_left _ (looked.sql_mem exchange hexchange)
    · rw [List.forall_mem_singleton]
      exact List.mem_append_right _ List.mem_cons_self

theorem TableRead.eq_nil_of_rejected {exchanges : List Exchange} {table : Table}
    (h : TableRead exchanges table) (hrejected : ∀ exchange ∈ exchanges, exchange.IsRejected) :
    table.columns = [] ∧ table.indexes = [] := by
  cases h with
  | intro looked indexed =>
    obtain ⟨hcolumns, hindexes⟩ := List.forall_mem_append.1 hrejected
    refine ⟨looked.eq_nil_of_rejected hcolumns, ?_⟩
    obtain ⟨e, he⟩ := hindexes _ List.mem_cons_self
    cases indexed with
    | answered _ => cases he
    | rejected => rfl

/-- Tables about which nothing was answered are empty. -/
theorem TablesRead.eq_nil_of_rejected {exchanges : List Exchange} {tables : List Table}
    (h : TablesRead exchanges tables) : ∀ table ∈ tables,
      (∀ exchange ∈ exchanges, exchange.sql ∈ questions table.name → exchange.IsRejected) →
      table.columns = [] ∧ table.indexes = [] := by
  induction h with
  | nil => exact List.forall_mem_nil _
  | cons read _ ih =>
    refine List.forall_mem_cons.2 ⟨fun hrejected => ?_, fun table htable hrejected => ?_⟩
    · exact read.eq_nil_of_rejected fun exchange hexchange =>
        hrejected exchange (List.mem_append_left _ hexchange) (read.sql_mem exchange hexchange)
    · exact ih table htable fun exchange hexchange =>
        hrejected exchange (List.mem_append_right _ hexchange)

theorem Listed.exists_answered {sqls names : List String} {exchanges : List Exchange}
    (h : Listed sqls exchanges names) : ∃ exchange ∈ exchanges, ¬exchange.IsRejected := by
  obtain ⟨sql, -, rows, hrows, -⟩ := h.exists_rows
  refine ⟨_, hrows, ?_⟩
  rintro ⟨e, he⟩
  cases he

theorem Unlisted.isRejected {sqls : List String} {exchanges : List Exchange}
    (h : Unlisted sqls exchanges) : ∀ exchange ∈ exchanges, exchange.IsRejected := by
  induction h with
  | nil => exact List.forall_mem_nil _
  | cons _ ih => exact List.forall_mem_cons.2 ⟨⟨_, rfl⟩, ih⟩

end Introspection

/-! ## Refreshes -/

namespace Action

open Introspection

theorem renewSchemaOnce_eq (x : Executor σ) (s : Session σ) :
    renewSchemaOnce x s =
      match readSchema x s.toLink with
      | (.error e, link) => .error e { s with toLink := link }
      | (.ok schema, link) =>
        let event := .info ("Schema refreshed, now has " ++ toString schema.size ++ " tables")
        .ok () { s with toLink := { link with journal := link.journal.log event }, schema } := by
  have hread : Action.onLink (readSchema x) s =
      .ok (readSchema x s.toLink).1 { s with toLink := (readSchema x s.toLink).2 } := rfl
  unfold renewSchemaOnce
  show EStateM.bind (Action.onLink (readSchema x)) _ s = _
  unfold EStateM.bind
  rw [hread]
  rcases readSchema x s.toLink with ⟨_ | _, _⟩
  · rfl
  · rfl

/-- **A refresh fails only if nothing at all was answered to it**, and then it leaves the schema as
it was. Otherwise it installs the schema that was read, in which a table has no columns and no
indexes if the questions about it were all rejected, by a lost connection or otherwise. -/
theorem renewSchemaOnce_unanswered (x : Executor σ) (s : Session σ) :
    ∃ exchanges, Exchanged x s.toLink exchanges (readSchema x s.toLink).2 ∧
      ((∃ e s', renewSchemaOnce x s = .error e s' ∧ (readSchema x s.toLink).1 = .error e ∧
          e.isDisconnect = true ∧ s'.schema = s.schema ∧
          ∀ exchange ∈ exchanges, exchange.IsRejected) ∨
        ∃ s', renewSchemaOnce x s = .ok () s' ∧ (readSchema x s.toLink).1 = .ok s'.schema ∧
          (∃ exchange ∈ exchanges, ¬exchange.IsRejected) ∧
          ∀ table ∈ s'.schema.tables,
            (∀ exchange ∈ exchanges, exchange.sql ∈ questions table.name →
              exchange.IsRejected) →
            table.columns = [] ∧ table.indexes = []) := by
  obtain ⟨exchanges, hexchanged, hread⟩ := readSchema_follows x s.toLink
  refine ⟨exchanges, hexchanged, ?_⟩
  -- From here on only the result counts, not how the link came by it.
  rw [renewSchemaOnce_eq]
  generalize readSchema x s.toLink = result at hread
  obtain ⟨result, link⟩ := result
  cases hread with
  | unlisted h => exact .inl ⟨_, _, rfl, rfl, rfl, rfl, h.isRejected⟩
  | read listed _ tablesRead =>
    obtain ⟨exchange, hexchange, hanswered⟩ := listed.exists_answered
    refine .inr ⟨_, rfl, rfl, ⟨exchange, List.mem_append_left _ hexchange, hanswered⟩, ?_⟩
    intro table htable hrejected
    exact tablesRead.eq_nil_of_rejected table htable fun exchange hexchange =>
      hrejected exchange (List.mem_append_right _ hexchange)

/-- An engine that lists one table and is gone for every other statement. -/
def listingOnly : Executor Unit where
  execute _ := pure ⟨.error (.connection "connection reset"), []⟩
  fetch sql := pure ⟨if sql ∈ listings.map Prod.snd then .ok [[.text "t"]]
    else .error (.connection "connection reset"), []⟩
  columnNames _ := pure ⟨.error (.connection "connection reset"), []⟩
  isAlive := pure false

theorem readSchema_listingOnly :
    (readSchema listingOnly ⟨(), {}, #[]⟩).1 = .ok ⟨[⟨"t", [], []⟩]⟩ := by
  have hread : (readSchema listingOnly ⟨(), {}, #[]⟩).1.toOption = some ⟨[⟨"t", [], []⟩]⟩ := by
    decide +kernel
  cases hresult : (readSchema listingOnly ⟨(), {}, #[]⟩).1 with
  | error e =>
    rw [hresult] at hread
    cases hread
  | ok schema =>
    rw [hresult] at hread
    rw [Option.some.inj hread]

theorem isLost_of_isAnswerOf_listingOnly {exchange : Exchange} {engine : Unit}
    (h : exchange.IsAnswerOf listingOnly engine) (hsql : exchange.sql ∉ listings.map Prod.snd) :
    exchange.IsLost := by
  cases exchange with
  | fetched sql reply =>
    have hreply : (if sql ∈ listings.map Prod.snd then Except.ok [[Cell.text "t"]]
      else .error (.connection "connection reset")) = reply := h
    rw [if_neg (show sql ∉ listings.map Prod.snd from hsql)] at hreply
    subst hreply
    exact ⟨_, rfl, rfl⟩
  | named sql reply =>
    have hreply : Except.error (.connection "connection reset") = reply := h
    subst hreply
    exact ⟨_, rfl, rfl⟩

theorem transcript_listingOnly :
    (readSchema listingOnly ⟨(), {}, #[]⟩).2.transcript.toList.map Sent.sql =
      (listings.map Prod.snd).take 1 ++ questions "t" := by
  decide +kernel

/-- **A lost connection is taken for a schema.** The refresh goes through and installs a table
without columns, although every statement after the listing found the connection gone. -/
theorem renewSchemaOnce_listingOnly :
    ∃ exchanges s', Exchanged listingOnly ⟨(), {}, #[]⟩ exchanges
        (readSchema listingOnly ⟨(), {}, #[]⟩).2 ∧
      exchanges.map Exchange.sql = (listings.map Prod.snd).take 1 ++ questions "t" ∧
      (∀ exchange ∈ exchanges, exchange.sql ∉ listings.map Prod.snd → exchange.IsLost) ∧
      renewSchemaOnce listingOnly (.start ⟨(), {}, #[]⟩ 1) = .ok () s' ∧
      s'.schema = ⟨[⟨"t", [], []⟩]⟩ := by
  obtain ⟨exchanges, hexchanged, hcourse⟩ :=
    renewSchemaOnce_unanswered listingOnly (.start ⟨(), {}, #[]⟩ 1)
  rcases hcourse with ⟨e, s', -, hread, -⟩ | ⟨s', hrun, hread, -⟩
  · cases readSchema_listingOnly.symm.trans hread
  · refine ⟨exchanges, s', hexchanged, ?_, fun exchange hexchange hsql => ?_, hrun, ?_⟩
    · have hexchanged : Exchanged listingOnly ⟨(), {}, #[]⟩ exchanges
          (readSchema listingOnly ⟨(), {}, #[]⟩).2 := hexchanged
      have hsent := transcript_listingOnly
      rw [hexchanged.transcript_eq, List.nil_append, List.map_map] at hsent
      exact hsent
    · obtain ⟨engine, hanswer⟩ := hexchanged.isAnswerOf exchange hexchange
      exact isLost_of_isAnswerOf_listingOnly hanswer hsql
    · exact Except.ok.inj (hread.symm.trans readSchema_listingOnly)

end Action

end RowParity
