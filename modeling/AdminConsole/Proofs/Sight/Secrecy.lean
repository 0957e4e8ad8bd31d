import AdminConsole.Model.Sample
import AdminConsole.Proofs.Sight.View

/-! # Calls reveal no more than the view

Two consoles with the same view for a role go through the same calls by
operators of that role.  They may differ in everything that the role does not
see, and in how their deliveries proceed.  If the role may open the journal, its
deliveries end at the same points of both runs and alike; otherwise they end
when and how they will (`Happening.noticedBy`).  Then the replies are the same,
call for call, and so are the views in the end, but for what each run draws for
itself (`Console.replies_reveal_only_view`).

The argument is an invariant of both runs together: the consoles look alike to
the role (`Console.Alike`).  An action keeps it, since its section is one that
the role sees (`Role.sees_place`) and nothing else decides what comes of it
(`Action.run_alike`).  The end of a delivery in both runs keeps it, since the
identifiers that are drawn are new: it marks corresponding entries of both
journals.  And the end of a delivery in one of them keeps it if the role does
not notice.

The name of the channel is no part of the view, and yet it stands on the page of
the journal.  Consoles with the same view and different channels can be told
apart by whoever may open that page, so the channel is an assumption of its own.
-/
namespace AdminConsole

/-- A record: one with a known identifier, or the one whose identifier was drawn at a call. -/
inductive RecordRef
  | known (id : Uuid)
  | drawn (call : Nat)

/-- The identifier of the record in a run that draws the given ones. -/
def RecordRef.id? (drawn : List Occasion) : RecordRef → Option Uuid
  | .known id => some id
  | .drawn call => drawn[call]?.map Occasion.recordId

/-- What happens to a console: an operator opens a page or asks for an action, or a delivery
ends. -/
inductive Happening
  | opens (actor : Uuid) (request : PageRequest)
  | acts (actor : Uuid) (origin : Origin) (a : Action)
  | delivered (record : RecordRef) (status : DeliveryStatus)

/-- The role notices that it happens: calls are its own, and deliveries stand in the journal. -/
def Happening.noticedBy (role : Role) : Happening → Bool
  | .delivered _ _ => decide (.viewAuditLog ∈ role.grants)
  | _ => true

/-- A record whose identifier is drawn is called by its call. -/
def Happening.Proper (drawn : List Occasion) : Happening → Prop
  | .delivered (.known id) _ => ∀ o ∈ drawn, id ≠ o.recordId
  | _ => True

theorem RecordRef.exists_proper (drawn : List Occasion) (id : Uuid) (status : DeliveryStatus) :
    ∃ record : RecordRef, record.id? drawn = some id ∧
      (Happening.delivered record status).Proper drawn := by
  by_cases h : ∃ o ∈ drawn, o.recordId = id
  · obtain ⟨o, ho, rfl⟩ := h
    obtain ⟨step, hstep⟩ := List.mem_iff_getElem?.mp ho
    exact ⟨.drawn step, Option.map_eq_some_iff.mpr ⟨o, hstep, rfl⟩, trivial⟩
  · exact ⟨.known id, rfl, fun o ho heq => h ⟨o, ho, heq.symm⟩⟩

theorem Draws.mem_of_getElem? {draws : Draws} {n : Nat} {x y : Occasion}
    (hx : (draws.map Prod.fst)[n]? = some x) (hy : (draws.map Prod.snd)[n]? = some y) :
    ∃ o ∈ draws, o.1 = x ∧ o.2 = y := by
  rw [List.getElem?_map, Option.map_eq_some_iff] at hx hy
  obtain ⟨o, ho, rfl⟩ := hx
  obtain ⟨o', ho', rfl⟩ := hy
  obtain rfl := Option.some.inj (ho.symm.trans ho')
  exact ⟨o, List.mem_of_getElem? ho, rfl, rfl⟩

/-- A reference means corresponding records in both runs. -/
theorem RecordRef.id_iff {draws : Draws} (hapart : draws.Apart) {record : RecordRef}
    {status : DeliveryStatus}
    (hleft : (Happening.delivered record status).Proper (draws.map Prod.fst))
    (hright : (Happening.delivered record status).Proper (draws.map Prod.snd))
    {x y : Uuid} (hx : record.id? (draws.map Prod.fst) = some x)
    (hy : record.id? (draws.map Prod.snd) = some y) {e f : JournalEntry} (hef : e.Alike draws f) :
    e.record.id = x ↔ f.record.id = y := by
  cases record with
  | known id =>
    obtain rfl := Option.some.inj hx
    obtain rfl := Option.some.inj hy
    exact hef.id_iff_of_not_drawn fun o ho =>
      ⟨hleft o.1 (List.mem_map_of_mem ho), hright o.2 (List.mem_map_of_mem ho)⟩
  | drawn step =>
    obtain ⟨u, hu, rfl⟩ := Option.map_eq_some_iff.mp hx
    obtain ⟨v, hv, rfl⟩ := Option.map_eq_some_iff.mp hy
    obtain ⟨o, ho, rfl, rfl⟩ := Draws.mem_of_getElem? hu hv
    exact hef.id_iff hapart ho

namespace Console

/-- The console when a delivery has ended and its end is entered in the journal. -/
def entered (id : Uuid) (status : DeliveryStatus) (c : Console) : Console :=
  { c with outbox := { c.outbox with journal := c.outbox.journal.setStatus id status } }

/-- The console and its journal are the same, whatever the deliveries under way have come to. -/
structure Unseen (c c' : Console) : Prop where
  data : c'.data = c.data
  journal : c'.outbox.journal = c.outbox.journal
  name : c'.outbox.channel.name = c.outbox.channel.name

/-- Operators of one role make calls, from call `n` on, and deliveries end meanwhile; every action
gets the occasion that is drawn for its call.  `replies` are what the operators are told, and `d` is
the console in the end. -/
inductive Course (overflow : Overflow) (role : Role) (drawn : List Occasion) :
    Nat → Console → List Happening → List Reply → Console → Prop
  | stop {n : Nat} {c d : Console} : c.Unseen d → Course overflow role drawn n c [] [] d
  | opens {n : Nat} {c c' d : Console} {rest : List Happening} {replies : List Reply}
      {actor : Uuid} {request : PageRequest} : c.Unseen c' →
      Course overflow role drawn (n + 1) c' rest replies d →
      Course overflow role drawn n c (.opens actor request :: rest)
        (.shown (c'.view overflow ⟨actor, role⟩ request) :: replies) d
  | acts {n : Nat} {c c' d : Console} {rest : List Happening} {replies : List Reply}
      {actor : Uuid} {origin : Origin} {a : Action} {occasion : Occasion} : c.Unseen c' →
      drawn[n]? = some occasion →
      Course overflow role drawn (n + 1) (perform ⟨actor, role⟩ origin occasion a c').2 rest
        replies d →
      Course overflow role drawn n c (.acts actor origin a :: rest)
        (.done (perform ⟨actor, role⟩ origin occasion a c').1 :: replies) d
  | delivered {n : Nat} {c c' d : Console} {rest : List Happening} {replies : List Reply}
      {record : RecordRef} {id : Uuid} {status : DeliveryStatus} : c.Unseen c' →
      record.id? drawn = some id →
      Course overflow role drawn n (c'.entered id status) rest replies d →
      Course overflow role drawn n c (.delivered record status :: rest) replies d

/-- What is drawn is new: no identifier is drawn twice, and none is that of a record that was there
before, in the journal or on its way. -/
structure Fresh (drawn : List Occasion) (c : Console) (happenings : List Happening) : Prop where
  nodup : (drawn.map Occasion.recordId).Nodup
  journal : ∀ e ∈ c.outbox.journal.entries, ∀ o ∈ drawn, e.record.id ≠ o.recordId
  proper : ∀ happening ∈ happenings, happening.Proper drawn

variable {overflow : Overflow} {role : Role} {draws : Draws} {o : Occasion × Occasion}
  {c c' d d' : Console}

/-! ## Deliveries as courses

Whatever the outbox does by itself is a course: it goes unseen, or it is the end
of a delivery.
-/

section Deliveries

variable {drawn : List Occasion} {n : Nat} {happenings : List Happening} {replies : List Reply}

theorem Unseen.refl (c : Console) : c.Unseen c := ⟨rfl, rfl, rfl⟩

theorem Unseen.trans (h : c.Unseen c') (h' : c'.Unseen d) : c.Unseen d :=
  ⟨h'.data.trans h.data, h'.journal.trans h.journal, h'.name.trans h.name⟩

theorem Unseen.course (h : c.Unseen c')
    (hrun : Course overflow role drawn n c' happenings replies d) :
    Course overflow role drawn n c happenings replies d := by
  cases hrun with
  | stop h' => exact Course.stop (h.trans h')
  | opens h' hrest => exact Course.opens (h.trans h') hrest
  | acts h' ho hrest => exact Course.acts (h.trans h') ho hrest
  | delivered h' hid hrest => exact Course.delivered (h.trans h') hid hrest

theorem Course.of_shows {o : Outbox} (h : c.outbox.Shows o)
    (hrun : ∃ happenings, (∀ happening ∈ happenings, happening.Proper drawn) ∧
      Course overflow role drawn n { c with outbox := o } happenings [] d) :
    ∃ happenings, (∀ happening ∈ happenings, happening.Proper drawn) ∧
      Course overflow role drawn n c happenings [] d := by
  obtain ⟨happenings, hproper, hrest⟩ := hrun
  rcases h.journal with hj | ⟨id, status, hj⟩
  · have hunseen : c.Unseen { c with outbox := o } := ⟨rfl, hj, h.name⟩
    exact ⟨happenings, hproper, hunseen.course hrest⟩
  · obtain ⟨record, hid, hrecord⟩ := RecordRef.exists_proper drawn id status
    have hended : (c.entered id status).Unseen { c with outbox := o } := ⟨rfl, hj, h.name⟩
    exact ⟨.delivered record status :: happenings, List.forall_mem_cons.mpr ⟨hrecord, hproper⟩,
      Course.delivered (Unseen.refl c) hid (hended.course hrest)⟩

theorem course_run (steps : Nat) (c : Console) (n : Nat) :
    ∃ happenings, (∀ happening ∈ happenings, happening.Proper drawn) ∧
      Course overflow role drawn n c happenings [] { c with outbox := c.outbox.run steps } := by
  induction steps generalizing c with
  | zero => exact ⟨[], List.forall_mem_nil _, Course.stop (Unseen.refl c)⟩
  | succ steps ih =>
    exact Course.of_shows c.outbox.shows_step (ih { c with outbox := c.outbox.step })

/-- **That held attempts are released and everything settles is a course of deliveries.** -/
theorem course_release (k : Nat) (c : Console) (n : Nat) :
    ∃ happenings, (∀ happening ∈ happenings, happening.Proper drawn) ∧
      Course overflow role drawn n c happenings [] { c with outbox := c.outbox.release k } := by
  induction k generalizing c with
  | zero => exact course_run c.outbox.stepsLeft c n
  | succ k ih =>
    exact Course.of_shows c.outbox.shows_releaseOne (ih { c with outbox := c.outbox.releaseOne })

end Deliveries

/-! ## What one step keeps -/

namespace Alike

theorem unseen (h : c.Alike role draws d) (hc : c.Unseen c') (hd : d.Unseen d') :
    c'.Alike role draws d' where
  data := by
    rw [hc.data, hd.data]
    exact h.data
  memberCounts := by
    rw [hc.data, hd.data]
    exact h.memberCounts
  openReports := by
    rw [hc.data, hd.data]
    exact h.openReports
  journal := by
    rw [hc.journal, hd.journal]
    exact h.journal
  transport := by
    rw [hc.name, hd.name]
    exact h.transport

/-- A change in one section and a record of one step. -/
theorem changed (h : c.Alike role draws d) (ho : o ∈ draws) {place : Section} {x y : Data}
    (hx : Data.Beside place c.data x) (hy : Data.Beside place d.data y)
    (hplace : x.AlikeIn draws y place) (r : AuditRecord) :
    Alike role draws { data := x, outbox := (c.outbox.submit (r.on o.1)).2 }
      { data := y, outbox := (d.outbox.submit (r.on o.2)).2 } where
  data s hs := by
    by_cases hne : place = s
    · exact hne ▸ hplace
    · exact (h.data s hs).beside hne hx hy
  memberCounts := by
    by_cases hne : place = .members
    · subst hne
      exact congrArg MemberCounts.of hplace
    · simp only [hx.members hne, hy.members hne, h.memberCounts]
  openReports := by
    by_cases hne : place = .reports
    · subst hne
      exact congrArg Report.openIn hplace
    · simp only [hx.reports hne, hy.reports hne, h.openReports]
  journal hp := (h.journal hp).append r ho
  transport := h.transport

/-- **An action at one step is answered alike, and leaves alike consoles.** -/
theorem perform (h : c.Alike role draws d) (ho : o ∈ draws) (actor : Uuid) (origin : Origin)
    (a : Action) :
    Reply.Alike draws (.done (perform ⟨actor, role⟩ origin o.1 a c).1)
        (.done (perform ⟨actor, role⟩ origin o.2 a d).1) ∧
      (perform ⟨actor, role⟩ origin o.1 a c).2.Alike role draws
        (perform ⟨actor, role⟩ origin o.2 a d).2 := by
  -- Both runs go the same way: the gate looks at the role alone, and the rest at a section that the
  -- role sees.
  rcases perform_cases ⟨actor, role⟩ origin o.1 a c with
    ⟨hp, hc⟩ | ⟨hp, r, hrunc, hc⟩ | ⟨hp, done, x, hrunc, hc⟩
  · rcases perform_cases ⟨actor, role⟩ origin o.2 a d with ⟨-, hd⟩ | ⟨hp', -⟩ | ⟨hp', -⟩
    · rw [hc, hd]
      exact ⟨Reply.Alike.same _, h⟩
    · exact absurd hp' hp
    · exact absurd hp' hp
  · obtain ⟨hout, -⟩ := Action.run_alike a actor (h.data _ (role.sees_place a.kind hp)) ho
    rcases perform_cases ⟨actor, role⟩ origin o.2 a d with
      ⟨hp', -⟩ | ⟨-, r', hrund, hd⟩ | ⟨-, done', y, hrund, hd⟩
    · exact absurd hp hp'
    · rw [hrunc, hrund] at hout
      cases hout
      rw [hc, hd]
      exact ⟨Reply.Alike.same _, h⟩
    · rw [hrunc, hrund] at hout
      cases hout
  · obtain ⟨hout, hafter⟩ := Action.run_alike a actor (h.data _ (role.sees_place a.kind hp)) ho
    rcases perform_cases ⟨actor, role⟩ origin o.2 a d with
      ⟨hp', -⟩ | ⟨-, r', hrund, hd⟩ | ⟨-, done', y, hrund, hd⟩
    · exact absurd hp hp'
    · rw [hrunc, hrund] at hout
      cases hout
    · rw [hrunc, hrund] at hout hafter
      obtain ⟨htarget, hresult⟩ : done.target = done'.target ∧
          done.result.Alike draws done'.result := by
        cases hout with
        | performed htarget hresult => exact ⟨htarget, hresult⟩
      rw [hc, hd, ← htarget]
      exact ⟨Reply.Alike.receipt ⟨hresult, o, ho, rfl, rfl⟩,
        h.changed ho (Action.run_ok hrunc).2.beside (Action.run_ok hrund).2.beside hafter
          (recordOf ⟨actor, role⟩ origin o.1 a.kind done.target)⟩

/-- A delivery that ends in both runs. -/
theorem entered (h : c.Alike role draws d) {x y : Uuid}
    (hid : ∀ {e f : JournalEntry}, e.Alike draws f → (e.record.id = x ↔ f.record.id = y))
    (status : DeliveryStatus) : (c.entered x status).Alike role draws (d.entered y status) where
  data := h.data
  memberCounts := h.memberCounts
  openReports := h.openReports
  journal hp := (h.journal hp).setStatus hid status
  transport := h.transport

/-- A delivery that ends in one run only is not noticed by a role that may not open the journal. -/
theorem entered_left (h : c.Alike role draws d) (hrole : .viewAuditLog ∉ role.grants) (id : Uuid)
    (status : DeliveryStatus) : (c.entered id status).Alike role draws d where
  data := h.data
  memberCounts := h.memberCounts
  openReports := h.openReports
  journal hp := absurd hp hrole
  transport := h.transport

theorem entered_right (h : c.Alike role draws d) (hrole : .viewAuditLog ∉ role.grants) (id : Uuid)
    (status : DeliveryStatus) : c.Alike role draws (d.entered id status) where
  data := h.data
  memberCounts := h.memberCounts
  openReports := h.openReports
  journal hp := absurd hp hrole
  transport := h.transport

/-- Whatever the role does not notice leaves a console alike that goes on with the rest. -/
theorem skip {drawn : List Occasion} {n : Nat} {before rest : List Happening}
    {replies : List Reply} (h : c.Alike role draws d)
    (hbefore : ∀ happening ∈ before, ¬ happening.noticedBy role = true)
    (hd : Course overflow role drawn n d (before ++ rest) replies d') :
    ∃ e, c.Alike role draws e ∧ Course overflow role drawn n e rest replies d' := by
  induction before generalizing d with
  | nil => exact ⟨d, h, hd⟩
  | cons happening before ih =>
    obtain ⟨hhappening, hothers⟩ := List.forall_mem_cons.mp hbefore
    cases hd with
    | opens => exact absurd rfl hhappening
    | acts => exact absurd rfl hhappening
    | delivered hunseen _ hrun =>
      have hrole : .viewAuditLog ∉ role.grants := fun hp => hhappening (decide_eq_true hp)
      exact ih ((h.unseen (Unseen.refl c) hunseen).entered_right hrole _ _) hothers hrun

/-- What the role notices in the one run happens in the other one, too, on an alike console. -/
theorem meet {drawn : List Occasion} {n : Nat} {happening : Happening}
    {seen happenings : List Happening} {replies : List Reply} (h : c.Alike role draws d)
    (hseen : happening :: seen = happenings.filter (Happening.noticedBy role))
    (hd : Course overflow role drawn n d happenings replies d') :
    ∃ e rest, c.Alike role draws e ∧ Course overflow role drawn n e (happening :: rest) replies d' ∧
      seen = rest.filter (Happening.noticedBy role) ∧ happening :: rest ⊆ happenings := by
  obtain ⟨before, rest, rfl, hbefore, -, hrest⟩ := List.filter_eq_cons_iff.mp hseen.symm
  obtain ⟨e, he, hrun⟩ := h.skip hbefore hd
  exact ⟨e, rest, he, hrun, hrest.symm, List.subset_append_right before _⟩

end Alike

/-! ## Whole runs -/

theorem Alike.run {n : Nat} {happenings happenings' : List Happening}
    {replies replies' : List Reply} (hapart : draws.Apart)
    (hleft : ∀ happening ∈ happenings, happening.Proper (draws.map Prod.fst))
    (hright : ∀ happening ∈ happenings', happening.Proper (draws.map Prod.snd))
    (hsame : happenings.filter (Happening.noticedBy role) =
      happenings'.filter (Happening.noticedBy role))
    (h : c.Alike role draws d)
    (hc : Course overflow role (draws.map Prod.fst) n c happenings replies c')
    (hd : Course overflow role (draws.map Prod.snd) n d happenings' replies' d') :
    List.Forall₂ (Reply.Alike draws) replies replies' ∧ c'.Alike role draws d' := by
  -- By induction on the one run; the other one takes the same step as soon as it has taken those
  -- that go unnoticed.
  induction hc generalizing d happenings' replies' with
  | stop hc =>
    have hrest : ∀ happening ∈ happenings', ¬ happening.noticedBy role = true :=
      List.filter_eq_nil_iff.mp hsame.symm
    rw [← List.append_nil happenings'] at hd
    obtain ⟨e, he, hrun⟩ := h.skip hrest hd
    cases hrun with
    | stop hunseen => exact ⟨List.Forall₂.nil, he.unseen hc hunseen⟩
  | opens hc _ ih =>
    obtain ⟨-, hleft⟩ := List.forall_mem_cons.mp hleft
    obtain ⟨e, rest, he, hrun, hseen, hsub⟩ := h.meet hsame hd
    obtain ⟨-, hright⟩ := List.forall_mem_cons.mp fun x hx => hright x (hsub hx)
    cases hrun with
    | opens hunseen hrun =>
      have hnow := he.unseen hc hunseen
      obtain ⟨hreplies, hend⟩ := ih hleft hright hseen hnow hrun
      exact ⟨List.Forall₂.cons (hnow.view _ _ _) hreplies, hend⟩
  | acts hc hx _ ih =>
    obtain ⟨-, hleft⟩ := List.forall_mem_cons.mp hleft
    obtain ⟨e, rest, he, hrun, hseen, hsub⟩ := h.meet hsame hd
    obtain ⟨-, hright⟩ := List.forall_mem_cons.mp fun x hx => hright x (hsub hx)
    cases hrun with
    | acts hunseen hy hrun =>
      obtain ⟨o, ho, rfl, rfl⟩ := Draws.mem_of_getElem? hx hy
      obtain ⟨hreply, hafter⟩ := (he.unseen hc hunseen).perform ho _ _ _
      obtain ⟨hreplies, hend⟩ := ih hleft hright hseen hafter hrun
      exact ⟨List.Forall₂.cons hreply hreplies, hend⟩
  | @delivered _ _ _ _ _ _ record _ status hc hx _ ih =>
    obtain ⟨hproper, hleft⟩ := List.forall_mem_cons.mp hleft
    by_cases hrole : .viewAuditLog ∈ role.grants
    · have hnoticed : Happening.noticedBy role (.delivered record status) = true :=
        decide_eq_true hrole
      rw [List.filter_cons_of_pos hnoticed] at hsame
      obtain ⟨e, rest, he, hrun, hseen, hsub⟩ := h.meet hsame hd
      obtain ⟨hproper', hright⟩ := List.forall_mem_cons.mp fun x hx => hright x (hsub hx)
      cases hrun with
      | delivered hunseen hy hrun =>
        exact ih hleft hright hseen
          ((he.unseen hc hunseen).entered (RecordRef.id_iff hapart hproper hproper' hx hy) _) hrun
    · have hunnoticed : ¬ Happening.noticedBy role (.delivered record status) = true :=
        fun hnoticed => hrole (of_decide_eq_true hnoticed)
      rw [List.filter_cons_of_neg hunnoticed] at hsame
      exact ih hleft hright hsame
        ((h.unseen hc (Unseen.refl d)).entered_left hrole _ _) hd

/-- **Operators of a role learn nothing but their view.**  From consoles with the same view, whose
journals go to channels of the same name if the role may know it, the same calls are answered alike,
and the views in the end are alike, whatever else there is.  Deliveries end at the same points of
both runs, with the same results, if the role may open the journal; if not, each run has its own. -/
theorem replies_reveal_only_view {happenings happenings' : List Happening}
    {replies replies' : List Reply}
    (hview : c.viewFor role = d.viewFor role)
    (hname : role.sees .viewAuditLog c.outbox.channel.name =
      role.sees .viewAuditLog d.outbox.channel.name)
    (hsame : happenings.filter (Happening.noticedBy role) =
      happenings'.filter (Happening.noticedBy role))
    (hfresh : c.Fresh (draws.map Prod.fst) happenings)
    (hfresh' : d.Fresh (draws.map Prod.snd) happenings')
    (hc : Course overflow role (draws.map Prod.fst) 0 c happenings replies c')
    (hd : Course overflow role (draws.map Prod.snd) 0 d happenings' replies' d') :
    List.Forall₂ (Reply.Alike draws) replies replies' ∧
      (c'.viewFor role).Alike draws (d'.viewFor role) ∧
      role.sees .viewAuditLog c'.outbox.channel.name =
        role.sees .viewAuditLog d'.outbox.channel.name := by
  have hleft := hfresh.nodup
  have hright := hfresh'.nodup
  rw [List.map_map] at hleft hright
  have hapart : draws.Apart := ⟨hleft, hright⟩
  have hstart : c.Alike role draws d := Alike.of_viewFor_eq hview hname
    (fun e he o ho => hfresh.journal e he _ (List.mem_map_of_mem ho))
    (fun e he o ho => hfresh'.journal e he _ (List.mem_map_of_mem ho))
  obtain ⟨hreplies, hend⟩ := hstart.run hapart hfresh.proper hfresh'.proper hsame hc hd
  exact ⟨hreplies, hend.viewFor, Role.sees_eq_iff.mpr hend.transport⟩

/-- The console with the sample data and some team, before anything has happened. -/
def begun (team : List TeamMember) (channel : Channel) : Console where
  data := { Sample.data with team := team }
  outbox := .idle { maxAttempts := 1, delays := [] } channel

/-- The first payment is refunded, and some deliveries end; then the payments and the journal are
asked for. -/
def sampleRefund (deliveries : List Happening) : List Happening :=
  .acts (Sample.operatorId 5) ⟨"127.0.0.1", "Firefox"⟩ (.refundPayment (Sample.paymentId 1) none) ::
    (deliveries ++
      [.opens (Sample.operatorId 5) .payments, .opens (Sample.operatorId 5) (.audit none)])

/-- The record of the refund is delivered. -/
def sampleDeliveries : List Happening := [.delivered (.drawn 0) (.delivered 1)]

/-- What an operator of the support is told: the refund is done, and the journal is closed. -/
def sampleReplies (draw : Occasion) (page : Page) : List Reply :=
  [.done (.ok (.allowed {
      result := .payment
        ((Sample.payment 1 1 .premiumMonthly 1999 3).afterRefund draw.now none)
      recordId := draw.recordId })),
    .shown (.ok (.ok (.allowed page))),
    .shown (.ok (.ok (.denied { required := .viewAuditLog, role := .support })))]

/-- Two draws for the refund. -/
def sampleDraws : Draws := [(⟨Sample.daysAgo 0, .ofNat 1⟩, ⟨Sample.daysAgo (-1), .ofNat 2⟩)]

/-- The record of the refund is delivered in the one run, and held for ever in the other. -/
theorem replies_reveal_only_view_sampleRefund :
    (begun Sample.team .log).viewFor .support =
        (begun [] (.rehearsed "scripted" [.held])).viewFor .support ∧
      ∃ page page' c d,
        Course .stops .support (sampleDraws.map Prod.fst) 0 (begun Sample.team .log)
          (sampleRefund sampleDeliveries) (sampleReplies ⟨Sample.daysAgo 0, .ofNat 1⟩ page) c ∧
        Course .stops .support (sampleDraws.map Prod.snd) 0
          (begun [] (.rehearsed "scripted" [.held])) (sampleRefund [])
          (sampleReplies ⟨Sample.daysAgo (-1), .ofNat 2⟩ page') d ∧
        List.Forall₂ (Reply.Alike sampleDraws)
          (sampleReplies ⟨Sample.daysAgo 0, .ofNat 1⟩ page)
          (sampleReplies ⟨Sample.daysAgo (-1), .ofNat 2⟩ page') ∧
        (c.viewFor .support).Alike sampleDraws (d.viewFor .support) := by
  have hview : (begun Sample.team .log).viewFor .support =
    (begun [] (.rehearsed "scripted" [.held])).viewFor .support := rfl
  have hsame : (sampleRefund sampleDeliveries).filter (Happening.noticedBy .support) =
    (sampleRefund []).filter (Happening.noticedBy .support) := rfl
  have hfresh : (begun Sample.team .log).Fresh (sampleDraws.map Prod.fst)
      (sampleRefund sampleDeliveries) :=
    ⟨by decide, by decide, by simp [sampleRefund, sampleDeliveries, Happening.Proper]⟩
  have hfresh' : (begun [] (.rehearsed "scripted" [.held])).Fresh (sampleDraws.map Prod.snd)
    (sampleRefund []) := ⟨by decide, by decide, by simp [sampleRefund, Happening.Proper]⟩
  obtain ⟨page, c, hc⟩ : ∃ page c, Course .stops .support (sampleDraws.map Prod.fst) 0
      (begun Sample.team .log) (sampleRefund sampleDeliveries)
      (sampleReplies ⟨Sample.daysAgo 0, .ofNat 1⟩ page) c :=
    ⟨_, _, Course.acts (Unseen.refl _) rfl (Course.delivered (Unseen.refl _) rfl
      (Course.opens (Unseen.refl _) (Course.opens (Unseen.refl _) (Course.stop (Unseen.refl _)))))⟩
  obtain ⟨page', d, hd⟩ : ∃ page d, Course .stops .support (sampleDraws.map Prod.snd) 0
      (begun [] (.rehearsed "scripted" [.held])) (sampleRefund [])
      (sampleReplies ⟨Sample.daysAgo (-1), .ofNat 2⟩ page) d :=
    ⟨_, _, Course.acts (Unseen.refl _) rfl
      (Course.opens (Unseen.refl _) (Course.opens (Unseen.refl _) (Course.stop (Unseen.refl _))))⟩
  obtain ⟨hreplies, hend, -⟩ := replies_reveal_only_view hview rfl hsame hfresh hfresh' hc hd
  exact ⟨hview, page, page', c, d, hc, hd, hreplies, hend⟩

/-- The view does not tell the name of the channel, and the page of the journal does. -/
theorem audit_page_beside_view :
    (begun Sample.team .log).viewFor .owner =
        (begun Sample.team (.rehearsed "scripted" [])).viewFor .owner ∧
      (begun Sample.team .log).Fresh [] [.opens (Sample.operatorId 1) (.audit none)] ∧
      (begun Sample.team (.rehearsed "scripted" [])).Fresh []
        [.opens (Sample.operatorId 1) (.audit none)] ∧
      Course .stops .owner [] 0 (begun Sample.team .log)
        [.opens (Sample.operatorId 1) (.audit none)]
        [.shown (.ok (.ok (.allowed (.audit ⟨[], "log"⟩))))] (begun Sample.team .log) ∧
      Course .stops .owner [] 0 (begun Sample.team (.rehearsed "scripted" []))
        [.opens (Sample.operatorId 1) (.audit none)]
        [.shown (.ok (.ok (.allowed (.audit ⟨[], "scripted"⟩))))]
        (begun Sample.team (.rehearsed "scripted" [])) ∧
      ¬ List.Forall₂ (Reply.Alike []) [.shown (.ok (.ok (.allowed (.audit ⟨[], "log"⟩))))]
        [.shown (.ok (.ok (.allowed (.audit ⟨[], "scripted"⟩))))] := by
  have hproper : ∀ happening ∈ [Happening.opens (Sample.operatorId 1) (.audit none)],
      happening.Proper [] := by simp [Happening.Proper]
  refine ⟨rfl, ⟨List.nodup_nil, by simp, hproper⟩, ⟨List.nodup_nil, by simp, hproper⟩,
    Course.opens (Unseen.refl _) (Course.stop (Unseen.refl _)),
    Course.opens (Unseen.refl _) (Course.stop (Unseen.refl _)), fun h => ?_⟩
  exact absurd (List.forall₂_cons.mp h).1.page_alike.transport_eq (by decide)

end Console

end AdminConsole
