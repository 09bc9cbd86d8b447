import Registrar.Proofs.Session.Course

/-!
# One Record and Several Transactions

Several parties talk to the database at the same time, each in a transaction of its own. What
all of them exchanged, in the order in which it happened, is a schedule, and each party has
its own part of it. The order of the parts is not determined by anything.

Here they are after the same record: one statement looks for it and another one removes it.
A statement sees what has been committed when it is executed, and what its own transaction
did before. While a transaction that removed the record is not over, the removal by another
one has to wait; there is then no way for it to go on. After a commit it finds nothing left
to remove, which is no fault. Every command is answered.

`Standing` is how things stand with the record, and `Standing.Run` is a schedule that the
database allows. The invariant is `Standing.Accounts`: it reads off what must have happened
so far. It holds if each party is `Orderly`, which is all that is known of the parties here.

## Main definitions

* `Schedule`, `Schedule.of`: What several parties exchanged, and what one of them did.
* `Standing`: How things stand with a record.
* `Standing.Step`, `Standing.Run`: What the database allows.
* `Orderly`: A party removes the record at last and commits then.
* `Standing.Accounts`: What must have happened for things to stand as they do.

## Theorems

* `Standing.accounts_of_step`: One step preserves the invariant.
* `Standing.Run.accounts`: A whole run does.
* `Standing.Run.removed_once`: The record is removed by one of the parties.
* `Standing.Run.hidden_iff`: A party misses the record just if there was a commit before.
-/

namespace Registrar

/-- What several parties exchanged with the database, in the order in which it happened. -/
abbrev Schedule (ι : Type) := List (ι × Exchange)

namespace Schedule

variable {ι : Type} [DecidableEq ι]

/-- The exchanges of one party. -/
def of (party : ι) (schedule : Schedule ι) : List Exchange :=
  (schedule.filter fun entry => entry.1 = party).map Prod.snd

theorem of_append (party : ι) (before after : Schedule ι) :
    of party (before ++ after) = of party before ++ of party after := by
  unfold of
  rw [List.filter_append, List.map_append]

theorem of_split (party : ι) (exchange : Exchange) (before after : Schedule ι) :
    of party (before ++ (party, exchange) :: after) =
      of party before ++ exchange :: of party after := by
  simp only [of, List.filter_append, List.filter_cons, decide_true, if_true, List.map_append,
    List.map_cons]

theorem mem_of_iff {party : ι} {exchange : Exchange} {schedule : Schedule ι} :
    exchange ∈ of party schedule ↔ (party, exchange) ∈ schedule := by
  unfold of
  constructor
  · intro h
    rcases List.mem_map.1 h with ⟨⟨other, found⟩, hmem, rfl⟩
    rcases List.mem_filter.1 hmem with ⟨hmem, hsame⟩
    have hparty : other = party := of_decide_eq_true hsame
    rw [← hparty]
    exact hmem
  · intro h
    exact List.mem_map.2 ⟨_, List.mem_filter.2 ⟨h, decide_eq_true rfl⟩, rfl⟩

omit [DecidableEq ι] in
/-- One more exchange leaves the others as they are. -/
theorem mem_snoc_iff {party other : ι} {exchange added : Exchange} {schedule : Schedule ι}
    (hne : exchange ≠ added) :
    (other, exchange) ∈ schedule ++ [(party, added)] ↔ (other, exchange) ∈ schedule := by
  rw [List.mem_append, List.mem_singleton]
  refine or_iff_left fun hsame => hne ?_
  exact (Prod.mk.inj hsame).2

end Schedule

/-- How things stand with a record: it is there, or it has been removed in a transaction
    that is not over yet, or it is gone. -/
inductive Standing (ι : Type)
  | stored
  | removing (party : ι)
  | gone
  deriving DecidableEq

/-- A party that has removed the record does nothing more than to commit, and it does not
    commit without having tried to. -/
structure Orderly (remove : Sql.Text) (exchanges : List Exchange) : Prop where
  last : exchanges.Pairwise fun earlier later =>
    earlier.1 = .execute remove → later.1 = .commit
  commit : ∀ before reply after, exchanges = before ++ (.commit, reply) :: after →
    ∃ other, (.execute remove, other) ∈ before

namespace Orderly

variable {remove : Sql.Text}

/-- What is done in order is so from the beginning on. -/
theorem of_append {front back : List Exchange} (h : Orderly remove (front ++ back)) :
    Orderly remove front := by
  refine ⟨(List.pairwise_append.1 h.last).1, fun before reply after hfront => ?_⟩
  refine h.commit before reply (after ++ back) ?_
  rw [hfront, List.append_assoc, List.cons_append]

/-- Before anything but a commit nothing was removed. -/
theorem not_mem {before after : List Exchange} {exchange : Exchange}
    (h : Orderly remove (before ++ exchange :: after)) (hcommit : exchange.1 ≠ .commit)
    (reply : Reply) : (.execute remove, reply) ∉ before := by
  intro hmem
  have hlater := (List.pairwise_append.1 h.last).2.2 _ hmem exchange List.mem_cons_self
  exact hcommit (hlater rfl)

end Orderly

namespace Standing

variable {ι : Type} [DecidableEq ι]

/-- Whether a party sees the record: it sees what was committed and what it did itself. -/
def Visible (party : ι) : Standing ι → Prop
  | stored => True
  | removing remover => remover ≠ party
  | gone => False

/-- The transaction of a party is committed. -/
def commit (party : ι) : Standing ι → Standing ι
  | removing remover => if remover = party then gone else removing remover
  | standing => standing

/-- The transaction of a party is rolled back. -/
def rollback (party : ι) : Standing ι → Standing ι
  | removing remover => if remover = party then stored else removing remover
  | standing => standing

/-- What the database allows in one exchange. Looking for the record returns the given cell
    if it is seen. A removal affects the record if it is there, and nothing if it is gone.
    What another party is about to remove cannot be removed until that is decided. -/
inductive Step (look remove : Sql.Text) (cell : Cell) :
    Standing ι → ι → Exchange → Standing ι → Prop
  | connect (standing : Standing ι) (party : ι) (rows : Rows) :
      Step look remove cell standing party (.connect, .ok rows) standing
  | begin (standing : Standing ι) (party : ι) (rows : Rows) :
      Step look remove cell standing party (.begin, .ok rows) standing
  | seen {standing : Standing ι} {party : ι} (h : standing.Visible party) (affected : Nat) :
      Step look remove cell standing party (.execute look, .ok ⟨some cell, affected⟩) standing
  | hidden {standing : Standing ι} {party : ι} (h : ¬standing.Visible party) (affected : Nat) :
      Step look remove cell standing party (.execute look, .ok ⟨none, affected⟩) standing
  | removed (party : ι) :
      Step look remove cell stored party (.execute remove, .ok ⟨none, 1⟩) (removing party)
  | again (party : ι) :
      Step look remove cell (removing party) party (.execute remove, .ok ⟨none, 0⟩)
        (removing party)
  | missed (party : ι) :
      Step look remove cell gone party (.execute remove, .ok ⟨none, 0⟩) gone
  | commit (standing : Standing ι) (party : ι) (rows : Rows) :
      Step look remove cell standing party (.commit, .ok rows) (standing.commit party)
  | rollback (standing : Standing ι) (party : ι) (rows : Rows) :
      Step look remove cell standing party (.rollback, .ok rows) (standing.rollback party)

/-- A schedule that the database allows, and how things stand before and after it. -/
inductive Run (look remove : Sql.Text) (cell : Cell) :
    Standing ι → Schedule ι → Standing ι → Prop
  | nil (standing : Standing ι) : Run look remove cell standing [] standing
  | snoc {start standing next : Standing ι} {schedule : Schedule ι} {party : ι}
      {exchange : Exchange} (h : Run look remove cell start schedule standing)
      (hstep : Step look remove cell standing party exchange next) :
      Run look remove cell start (schedule ++ [(party, exchange)]) next

variable {look remove : Sql.Text} {cell : Cell}

/-- The first steps of a run are a run, and what comes next is a step. -/
theorem Run.split {start finish : Standing ι} {schedule : Schedule ι}
    (h : Run look remove cell start schedule finish) {before after : Schedule ι} {party : ι}
    {exchange : Exchange} (hsplit : schedule = before ++ (party, exchange) :: after) :
    ∃ standing next, Run look remove cell start before standing ∧
      Step look remove cell standing party exchange next := by
  induction h generalizing after with
  | nil => simp at hsplit
  | @snoc standing next schedule _ _ h hstep ih =>
      rcases List.eq_nil_or_concat after with rfl | ⟨front, last, rfl⟩
      · -- The last step of the run is the one in question.
        rcases List.append_inj' hsplit rfl with ⟨rfl, hlast⟩
        cases hlast
        exact ⟨standing, next, h, hstep⟩
      · rw [List.concat_eq_append, ← List.cons_append, ← List.append_assoc] at hsplit
        exact ih (List.append_inj' hsplit rfl).1

/-- Every command of a run is answered, and what is found is the given cell. -/
theorem Run.answered {start finish : Standing ι} {schedule : Schedule ι}
    (h : Run look remove cell start schedule finish) {party : ι} {exchange : Exchange}
    (hmem : (party, exchange) ∈ schedule) :
    ∃ rows, exchange.2 = .ok rows ∧
      (exchange.1 = .execute look → ∀ found ∈ rows.first, found = cell) := by
  -- The exchange was a step, and every step has an answer.
  rcases List.append_of_mem hmem with ⟨before, after, hsplit⟩
  rcases h.split hsplit with ⟨standing, next, -, hstep⟩
  cases hstep with
  | connect rows | begin rows | commit rows | rollback rows =>
      exact ⟨_, rfl, fun hlook => nomatch hlook⟩
  | seen hvisible affected =>
      exact ⟨_, rfl, fun _ found hfound => (Option.some.inj hfound).symm⟩
  | hidden hvisible affected => exact ⟨_, rfl, fun _ _ hnone => nomatch hnone⟩
  | removed | again | missed => exact ⟨_, rfl, fun _ _ hnone => nomatch hnone⟩

/-- A party has removed the record. -/
def Removed (remove : Sql.Text) (before : Schedule ι) (party : ι) : Prop :=
  (party, (.execute remove, .ok ⟨none, 1⟩)) ∈ before

/-- A party looked for the record after somebody had committed. -/
def LookedLate (look : Sql.Text) (schedule : Schedule ι) (party : ι) : Prop :=
  ∃ before reply after committer ended,
    schedule = before ++ (party, (.execute look, reply)) :: after ∧
      (committer, (.commit, ended)) ∈ before

/-- Nobody has committed anything. -/
def Uncommitted (before : Schedule ι) : Prop :=
  ∀ party reply, (party, (.commit, reply)) ∉ before

/-- What must have happened for things to stand as they do. A record that is still there has
    not been removed by anybody, one that is being removed by no other party, and one that
    is gone by one party that has committed. -/
def Accounts (remove : Sql.Text) (before : Schedule ι) : Standing ι → Prop
  | stored => Uncommitted before ∧ ∀ party reply, (party, (.execute remove, reply)) ∉ before
  | removing remover => Uncommitted before ∧ Removed remove before remover ∧
      ∀ party reply, (party, (.execute remove, reply)) ∈ before → party = remover
  | gone => (∃ party reply, (party, (.commit, reply)) ∈ before) ∧
      ∃ remover, Removed remove before remover ∧
        ∀ party, Removed remove before party → party = remover

omit [DecidableEq ι] in
/-- What is neither a removal nor a commit changes nothing about that. -/
theorem Accounts.idle {standing : Standing ι} {before : Schedule ι}
    (h : standing.Accounts remove before) {party : ι} {exchange : Exchange}
    (hremove : exchange.1 ≠ .execute remove) (hcommit : exchange.1 ≠ .commit) :
    standing.Accounts remove (before ++ [(party, exchange)]) := by
  -- Neither of the two can have been added.
  have hremoves : ∀ other reply, (other, (.execute remove, reply)) ∈ before ++ [(party, exchange)] ↔
      (other, (.execute remove, reply)) ∈ before :=
    fun _ _ => Schedule.mem_snoc_iff fun hsame => hremove (congrArg Prod.fst hsame).symm
  have hcommits : ∀ other reply, (other, (.commit, reply)) ∈ before ++ [(party, exchange)] ↔
      (other, (.commit, reply)) ∈ before :=
    fun _ _ => Schedule.mem_snoc_iff fun hsame => hcommit (congrArg Prod.fst hsame).symm
  cases standing with
  | stored | removing | gone =>
      simp only [Accounts, Uncommitted, Removed, hremoves, hcommits] at h ⊢
      exact h

omit [DecidableEq ι] in
/-- The only party that has removed the record is still the only one after an exchange in
    which nothing is removed. -/
theorem exists_remover_snoc {before : Schedule ι} {party : ι} {added : Exchange}
    (hne : ((.execute remove, .ok ⟨none, 1⟩) : Exchange) ≠ added)
    (h : ∃ remover, Removed remove before remover ∧
      ∀ other, Removed remove before other → other = remover) :
    ∃ remover, Removed remove (before ++ [(party, added)]) remover ∧
      ∀ other, Removed remove (before ++ [(party, added)]) other → other = remover := by
  rcases h with ⟨remover, hremoved, honly⟩
  refine ⟨remover, (Schedule.mem_snoc_iff hne).2 hremoved, fun other hother => ?_⟩
  exact honly other ((Schedule.mem_snoc_iff hne).1 hother)

/-- One step preserves the invariant, as long as the party that takes it is in order. -/
theorem accounts_of_step {standing next : Standing ι} {before : Schedule ι} {party : ι}
    {exchange : Exchange} (h : standing.Accounts remove before) (hne : look ≠ remove)
    (hstep : Step look remove cell standing party exchange next)
    (horderly : Orderly remove (Schedule.of party (before ++ [(party, exchange)]))) :
    next.Accounts remove (before ++ [(party, exchange)]) := by
  rw [Schedule.of_split] at horderly
  have hlast : (party, exchange) ∈ before ++ [(party, exchange)] :=
    List.mem_append_right _ List.mem_cons_self
  cases hstep with
  | connect | begin => exact h.idle (by simp) (by simp)
  | seen | hidden =>
      exact h.idle (fun hsame => hne (Command.execute.inj hsame)) (by simp)
  | removed =>
      -- Nobody had removed anything, so this is the removal.
      rcases h with ⟨huncommitted, hnone⟩
      refine ⟨fun other reply hmem => ?_, hlast, fun other reply hmem => ?_⟩
      · exact huncommitted other reply ((Schedule.mem_snoc_iff (by simp)).1 hmem)
      · rcases List.mem_append.1 hmem with hmem | hmem
        · exact absurd hmem (hnone other reply)
        · exact (Prod.mk.inj (List.mem_singleton.1 hmem)).1
  | again =>
      -- A party that is in order does not remove anything twice.
      exact absurd (Schedule.mem_of_iff.2 h.2.1) (horderly.not_mem (by simp) _)
  | missed =>
      rcases h with ⟨⟨committer, reply, hcommit⟩, hremoval⟩
      exact ⟨⟨committer, reply, List.mem_append_left _ hcommit⟩,
        exists_remover_snoc (by simp) hremoval⟩
  | commit _ _ rows =>
      -- A party that commits has removed the record, or found that it was gone.
      rcases horderly.commit _ _ _ rfl with ⟨reply, hmem⟩
      have hmem := Schedule.mem_of_iff.1 hmem
      cases standing with
      | stored => exact absurd hmem (h.2 party reply)
      | removing remover =>
          rcases h with ⟨-, hremoved, honly⟩
          have hsame : remover = party := (honly party reply hmem).symm
          rw [Standing.commit, if_pos hsame]
          refine ⟨⟨party, _, hlast⟩, exists_remover_snoc (by simp) ⟨remover, hremoved, ?_⟩⟩
          exact fun other hother => honly other _ hother
      | gone =>
          rcases h with ⟨-, hremoval⟩
          exact ⟨⟨party, _, hlast⟩, exists_remover_snoc (by simp) hremoval⟩
  | rollback =>
      -- What was removed is not taken back.
      have hkept : standing.rollback party = standing := by
        cases standing with
        | stored | gone => rfl
        | removing remover =>
            refine if_neg fun hsame => ?_
            have hmem := h.2.1
            rw [hsame] at hmem
            exact horderly.not_mem (by simp) _ (Schedule.mem_of_iff.2 hmem)
      rw [hkept]
      exact h.idle (by simp) (by simp)

/-- A whole run does. -/
theorem Run.accounts {standing : Standing ι} {schedule : Schedule ι} (hne : look ≠ remove)
    (h : Run look remove cell stored schedule standing)
    (horderly : ∀ party, Orderly remove (Schedule.of party schedule)) :
    standing.Accounts remove schedule := by
  -- The induction is on the run, which grows at its end. What a party did up to there is in
  -- order as well.
  generalize hstart : (stored : Standing ι) = start at h
  induction h with
  | nil =>
      rw [← hstart]
      exact ⟨fun _ _ => List.not_mem_nil, fun _ _ => List.not_mem_nil⟩
  | @snoc standing next schedule party exchange h hstep ih =>
      refine accounts_of_step (ih fun other => ?_) hne hstep (horderly party)
      have hwhole := horderly other
      rw [Schedule.of_append] at hwhole
      exact hwhole.of_append

variable {finish : Standing ι} {schedule : Schedule ι}

/-- After a commit the record is gone, and one of the parties has removed it. -/
theorem Run.removed_once (hne : look ≠ remove) (h : Run look remove cell stored schedule finish)
    (horderly : ∀ party, Orderly remove (Schedule.of party schedule)) {committer : ι}
    {reply : Reply} (hcommit : (committer, (.commit, reply)) ∈ schedule) :
    finish = .gone ∧ ∃ remover, Removed remove schedule remover ∧
      ∀ party, Removed remove schedule party → party = remover := by
  have haccounts := h.accounts hne horderly
  cases finish with
  | stored => exact absurd hcommit (haccounts.1 committer reply)
  | removing remover => exact absurd hcommit (haccounts.1 committer reply)
  | gone => exact ⟨rfl, haccounts.2⟩

/-- A party misses the record just if somebody had committed before it looked. -/
theorem Run.hidden_iff (hne : look ≠ remove) (h : Run look remove cell stored schedule finish)
    (horderly : ∀ party, Orderly remove (Schedule.of party schedule))
    {before after : Schedule ι} {party : ι} {rows : Rows}
    (hsplit : schedule = before ++ (party, (.execute look, .ok rows)) :: after) :
    (rows.first = none ∨ rows.first = some cell) ∧
      (rows.first = none ↔ ∃ committer reply, (committer, (.commit, reply)) ∈ before) := by
  rcases h.split hsplit with ⟨standing, next, hrun, hstep⟩
  have hbefore : ∀ other, Orderly remove (Schedule.of other before) := by
    intro other
    have hwhole := horderly other
    rw [hsplit, Schedule.of_append] at hwhole
    exact hwhole.of_append
  have haccounts := hrun.accounts hne hbefore
  -- Whether the party sees the record is determined by what must have happened before.
  have hvisible : standing.Visible party ↔ ¬∃ committer reply,
      (committer, (.commit, reply)) ∈ before := by
    cases standing with
    | stored =>
        refine iff_of_true trivial ?_
        rintro ⟨committer, reply, hcommit⟩
        exact haccounts.1 committer reply hcommit
    | removing remover =>
        refine iff_of_true ?_ ?_
        · -- A party that looks has not removed anything yet.
          rintro rfl
          have hown := horderly remover
          rw [hsplit, Schedule.of_split] at hown
          exact hown.not_mem (by simp) _ (Schedule.mem_of_iff.2 haccounts.2.1)
        · rintro ⟨committer, reply, hcommit⟩
          exact haccounts.1 committer reply hcommit
    | gone => exact iff_of_false not_false (Classical.not_not.2 haccounts.1)
  generalize hlook : (Command.execute look) = command at hstep
  cases hstep with
  | seen hseen =>
      exact ⟨Or.inr rfl, iff_of_false (by simp) (hvisible.1 hseen)⟩
  | hidden hhidden =>
      refine ⟨Or.inl rfl, iff_of_true rfl ?_⟩
      exact Classical.not_not.1 fun hnone => hhidden (hvisible.2 hnone)
  | removed | again | missed => exact absurd (Command.execute.inj hlook) hne
  | connect | begin | commit | rollback => cases hlook

end Standing

end Registrar
