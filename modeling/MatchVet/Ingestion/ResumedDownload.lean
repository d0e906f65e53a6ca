import MatchVet.Ingestion.TurnRules

/-!
# Resumed downloads

A body may be received in parts, over several requests and several processes.  Where a
partial file is continued only while it is the beginning of what the server holds, what is
stored and returned is a whole representation.  The downloader does not check that: it knows
an offset and a length only.
-/

namespace MatchVet.Ingestion.ResumedDownload

open MatchVet.Foundation.CrashLogic
open MatchVet.Ingestion.Audit
open MatchVet.Ingestion.Downloader
open MatchVet.Ingestion.Fetch
open MatchVet.Ingestion.FetchRules
open MatchVet.Ingestion.Transport
open MatchVet.Ingestion.TurnRules

section Downloads

variable {ω : Type} [Outside ω] [TransportServices]

/-! ## An honest server -/

/-- What a server holds at an address, what is left of the body it sends, and whether that
may end early. -/
structure Server (ω : Type) where
  representation : ω → String → Content
  left : ω → Content
  mayEndEarly : ω → Bool

/-- The body that is being sent. -/
def Server.body (server : Server ω) (env : ω) : Content × Bool :=
  (server.left env, server.mayEndEarly env)

/-- A server that answers each request for what it holds at that moment: 200 with all of it,
or 206 with the requested rest.  A body ends early only where its length was declared. -/
structure Honest (server : Server ω) : Prop where
  whole : ∀ request env response next, Outside.request request env = (.ok response, next) →
    response.status = 200 →
    server.left next = server.representation env request.url ∧
      (∀ length, declaredLength (foldedHeaders response.headers) = .ok (some length) →
        length = (server.representation env request.url).length) ∧
      (declaredLength (foldedHeaders response.headers) = .ok none →
        server.mayEndEarly next = false)
  rest : ∀ request offset env response next,
    Outside.request request env = (.ok response, next) → request.headers = requestHeaders offset →
    response.status = 206 →
    TransportServices.contentRange
        ((headerOf (foldedHeaders response.headers) "content-range").getD "") =
      some (offset, (server.representation env request.url).length - 1,
        (server.representation env request.url).length) ∧
      offset < (server.representation env request.url).length ∧
      server.left next = (server.representation env request.url).drop offset
  reads : ∀ size env chunk next, 0 < size → Outside.read size env = (.ok chunk, next) →
    chunk ++ server.left next = server.left env ∧
      server.mayEndEarly next = server.mayEndEarly env ∧
      (chunk = [] → server.left env = [] ∨ server.mayEndEarly env = true)
  monotonic : ∀ env, server.body (Outside.monotonic env).2 = server.body env
  utcnow : ∀ env, server.body (Outside.utcnow env).2 = server.body env
  requireCurrent : ∀ decision env,
    server.body (Outside.requireCurrent decision env).2 = server.body env
  resolvePublicIps : ∀ host env,
    server.body (Outside.resolvePublicIps host env).2 = server.body env
  cacheSize : ∀ env, server.body (Outside.cacheSize env).2 = server.body env

variable {server : Server ω}

/-! ## Histories -/

/-- The server held this content at one of the requests. -/
def Held (server : Server ω) (log : List (Event ω)) (content : Content) : Prop :=
  ∃ request env disk, Event.dispatched request env disk ∈ log ∧
    server.representation env request.url = content

/-- Where the partial file is continued, it is the beginning of what the server holds. -/
def Continues (server : Server ω) : Event ω → Prop
  | .dispatched request env disk => ∀ response,
      (Outside.request request env).1 = .ok response → response.status = 206 →
      disk.part.getD [] <+: server.representation env request.url
  | _ => True

def Continuous (server : Server ω) (log : List (Event ω)) : Prop :=
  ∀ event ∈ log, Continues server event

/-- What is in the cache was held by the server. -/
def Stored (server : Server ω) (world : World ω) : Prop :=
  ∀ content, world.disk.data = some content → Held server world.log content

omit [Outside ω] [TransportServices] in
theorem Held.append {log : List (Event ω)} {content : Content} (hheld : Held server log content)
    (event : Event ω) : Held server (log ++ [event]) content := by
  obtain ⟨request, env, disk, hmem, hcontent⟩ := hheld
  exact ⟨request, env, disk, List.mem_append_left _ hmem, hcontent⟩

omit [TransportServices] in
theorem Continuous.of_append {log : List (Event ω)} {event : Event ω}
    (hcontinuous : Continuous server (log ++ [event])) :
    Continuous server log ∧ Continues server event :=
  ⟨fun other hmem => hcontinuous other (List.mem_append_left _ hmem),
    hcontinuous event (List.mem_append_right _ (List.mem_singleton_self event))⟩

/-- In a history without wrong continuations, what is stored was held. -/
def Keeps (server : Server ω) (world : World ω) : Prop :=
  Continuous server world.log → Stored server world

/-- As `Keeps`, and the server has held this content. -/
def Holds (server : Server ω) (full : Content) (world : World ω) : Prop :=
  Continuous server world.log → Stored server world ∧ Held server world.log full

omit [TransportServices] in
theorem Keeps.record {world : World ω} (hkeeps : Keeps server world) (event : Event ω)
    (env : ω) (disk : Disk) (hdata : disk.data = world.disk.data) :
    Keeps server ({ world with env, disk }.record event) := by
  intro hcontinuous content hcontent
  change disk.data = some content at hcontent
  exact (hkeeps hcontinuous.of_append.1 content (hdata ▸ hcontent)).append event

omit [TransportServices] in
theorem Holds.record {full : Content} {world : World ω} (hholds : Holds server full world)
    (event : Event ω) (env : ω) (disk : Disk) (hdata : disk.data = world.disk.data) :
    Holds server full ({ world with env, disk }.record event) := by
  intro hcontinuous
  obtain ⟨hstored, hheld⟩ := hholds hcontinuous.of_append.1
  refine ⟨fun content hcontent => ?_, hheld.append event⟩
  change disk.data = some content at hcontent
  exact (hstored content (hdata ▸ hcontent)).append event

omit [TransportServices] in
theorem Holds.keeps {full : Content} {world : World ω} (hholds : Holds server full world) :
    Keeps server world := fun hcontinuous => (hholds hcontinuous).1

omit [TransportServices] in
theorem keeps_steady : Steady (Keeps server : World ω → Prop) :=
  Steady.of_env (fun _ _ => id) fun _ _ hkeeps => hkeeps.record _ _ _ rfl

omit [TransportServices] in
theorem holds_steady {full : Content} : Steady (Holds server full : World ω → Prop) :=
  Steady.of_env (fun _ _ => id) fun _ _ hholds => hholds.record _ _ _ rfl

/-! ## Receiving a body -/

theorem steady_body (hhonest : Honest server) (kept : Content × Bool → Prop) :
    Steady fun world : World ω => kept (server.body world.env) where
  monotonic world hworld := by
    change kept (server.body (Outside.monotonic world.env).2)
    rwa [hhonest.monotonic]
  utcnow world hworld := by
    change kept (server.body (Outside.utcnow world.env).2)
    rwa [hhonest.utcnow]
  requireCurrent decision world hworld := by
    change kept (server.body (Outside.requireCurrent decision world.env).2)
    rwa [hhonest.requireCurrent]
  resolvePublicIps host world hworld := by
    change kept (server.body (Outside.resolvePublicIps host world.env).2)
    rwa [hhonest.resolvePublicIps]
  cacheSize world hworld := by
    change kept (server.body (Outside.cacheSize world.env).2)
    rwa [hhonest.cacheSize]

/-- The server has held a content that is what was kept and the body that is sent now. -/
def Splits (server : Server ω) (full kept body : Content) (world : World ω) : Prop :=
  Holds server full world ∧ (Continuous server world.log → kept ++ body = full)

/-- So many bytes of the body are in the partial file, behind what was kept. -/
def Receives (server : Server ω) (full kept body : Content) (early : Bool) (byteCount : ℕ)
    (world : World ω) : Prop :=
  Splits server full kept body world ∧ ∃ read, world.disk.part = some (kept ++ read) ∧
    read.length = byteCount ∧ read ++ (server.body world.env).1 = body ∧
    (server.body world.env).2 = early

/-- The reading of the body ended: nothing is left of it, or it may have ended early, or the
declared length was reached. -/
def Received (server : Server ω) (full kept body : Content) (early : Bool)
    (contentLength : Option ℕ) (byteCount : ℕ) (world : World ω) : Prop :=
  Splits server full kept body world ∧ ∃ read rest, world.disk.part = some (kept ++ read) ∧
    read.length = byteCount ∧ read ++ rest = body ∧
    (rest = [] ∨ early = true ∨ contentLength = some byteCount)

variable {full kept body : Content} {early : Bool} {faults : Fate Leftover → Prop}

omit [TransportServices] in
theorem Splits.record {world : World ω} (hsplits : Splits server full kept body world)
    (event : Event ω) (env : ω) (disk : Disk) (hdata : disk.data = world.disk.data) :
    Splits server full kept body ({ world with env, disk }.record event) :=
  ⟨hsplits.1.record event env disk hdata,
    fun hcontinuous => hsplits.2 hcontinuous.of_append.1⟩

omit [TransportServices] in
theorem splits_steady : Steady (Splits server full kept body : World ω → Prop) :=
  Steady.of_env (fun _ _ => id) fun _ _ hsplits => hsplits.record _ _ _ rfl

theorem receives_steady (hhonest : Honest server) {byteCount : ℕ} :
    Steady (Receives server full kept body early byteCount : World ω → Prop) := by
  refine splits_steady.and (Steady.exists fun read => ?_)
  exact (steady_disk fun disk => disk.part = some (kept ++ read)).and ((steady_const _).and
    ((steady_body hhonest fun pair => read ++ pair.1 = body).and
      (steady_body hhonest fun pair => pair.2 = early)))

omit [TransportServices] in
/-- A body that stops arriving leaves the cache as it was. -/
theorem receives_stops {byteCount : ℕ} {world : World ω}
    (hreceives : Receives server full kept body early byteCount world) : Keeps server world :=
  hreceives.1.1.keeps

/-- A chunk of the body came, and is not written yet. -/
def Arrived (server : Server ω) (full kept body : Content) (early : Bool) (byteCount : ℕ)
    (chunk : Content) (world : World ω) : Prop :=
  Splits server full kept body world ∧ ∃ read, world.disk.part = some (kept ++ read) ∧
    read.length = byteCount ∧ read ++ (chunk ++ (server.body world.env).1) = body ∧
    (server.body world.env).2 = early ∧
    (chunk = [] → (server.body world.env).1 = [] ∨ early = true)

theorem arrived_steady (hhonest : Honest server) {byteCount : ℕ} {chunk : Content} :
    Steady (Arrived server full kept body early byteCount chunk : World ω → Prop) := by
  refine splits_steady.and (Steady.exists fun read => ?_)
  exact (steady_disk fun disk => disk.part = some (kept ++ read)).and ((steady_const _).and
    ((steady_body hhonest fun pair => read ++ (chunk ++ pair.1) = body).and
      ((steady_body hhonest fun pair => pair.2 = early).and
        (steady_body hhonest fun pair => chunk = [] → pair.1 = [] ∨ early = true))))

theorem readChunk_arrives (hhonest : Honest server) {size byteCount : ℕ} (hsize : 0 < size) :
    Ends faults (Receives server full kept body early byteCount) (readChunk size)
      (Arrived server full kept body early byteCount) fun _ => (Keeps server : World ω → Prop) := by
  refine readChunk_ends (fun world chunk env hworld hanswer => ?_)
    fun world error env hworld _ => hworld.1.1.keeps
  obtain ⟨hsplits, read, hpart, hlength, hbody, hearly⟩ := hworld
  obtain ⟨hleft, hstill, hempty⟩ := hhonest.reads size world.env chunk env hsize hanswer
  refine ⟨hsplits.record (.received chunk.length) env world.disk rfl, read, hpart, hlength, ?_,
    hstill.trans hearly, fun hchunk => ?_⟩
  · change read ++ (chunk ++ server.left env) = body
    rw [hleft]
    exact hbody
  · change server.left env = [] ∨ early = true
    rw [hchunk, List.nil_append] at hleft
    rw [hleft, ← hearly]
    exact hempty hchunk

omit [TransportServices] in
theorem writeChunk_receives {byteCount : ℕ} {chunk : Content} :
    Ends faults (Arrived server full kept body early byteCount chunk) (writeChunk chunk)
      (fun _ => Receives server full kept body early (byteCount + chunk.length))
      fun _ => (Keeps server : World ω → Prop) := by
  refine writeChunk_ends (fun world hworld => ?_) fun stop world count _ hworld => ?_
  · obtain ⟨hsplits, read, hpart, rfl, hbody, hearly, -⟩ := hworld
    refine ⟨hsplits.record _ world.env _ rfl, read ++ chunk, ?_, List.length_append, ?_, hearly⟩
    · rw [hpart, ← List.append_assoc]
      rfl
    · rw [List.append_assoc]
      exact hbody
  · exact (hworld.1.record (.stored _) world.env { world.disk with part := some _ } rfl).1.keeps

theorem receiveChunks_ends (hhonest : Honest server) {receiving : Receiving}
    {contentLength : Option ℕ} {currentSize : ℕ} (passes byteCount : ℕ) :
    Ends faults (Receives server full kept body early byteCount)
      (receiveChunks receiving contentLength currentSize passes byteCount)
      (fun outcome world => match outcome with
        | none => Keeps server world
        | some received => Received server full kept body early contentLength received world)
      fun _ => (Keeps server : World ω → Prop) := by
  induction passes generalizing byteCount with
  | zero => exact Ends.ret fun _ => receives_stops
  | succ passes ih =>
      have hsteady : Steady (Receives server full kept body early byteCount : World ω → Prop) :=
        receives_steady hhonest
      have hraise : Raises (Receives server full kept body early byteCount : World ω → Prop)
          fun _ => Keeps server := fun _ _ => receives_stops
      refine Ends.bind Ends.glance fun budget => ?_
      refine Ends.branch (fun _ => ?_) fun hbudget => ?_
      · refine Ends.branch (fun hlength => Ends.ret fun world hworld => ?_) fun _ =>
          Ends.raise fun _ => receives_stops
        obtain ⟨hsplits, read, hpart, hcount, hbody, -⟩ := hworld
        exact ⟨hsplits, read, _, hpart, hcount, hbody, .inr (.inr hlength)⟩
      refine Ends.bind (requireElapsed_ends hsteady hraise) fun _ => ?_
      refine Ends.bind (ticking_ends hsteady) fun now => ?_
      refine Ends.bind ((remaining_ends hsteady _ _).to fun _ _ hboth => hboth.1) fun left => ?_
      refine Ends.branch (fun _ => Ends.raise fun _ => receives_stops) fun _ => ?_
      have hsize : 0 < min (64 * 1024) budget := by omega
      refine Ends.bind (readChunk_arrives hhonest hsize) fun chunk => ?_
      refine Ends.branch (fun hempty => ?_) fun hchunk => ?_
      · refine Ends.bind (ticking_ends (arrived_steady hhonest)) fun now => ?_
        refine Ends.branch (fun _ => Ends.raise fun world hworld => hworld.1.1.keeps) fun _ => ?_
        refine Ends.ret fun world hworld => ?_
        obtain ⟨hsplits, read, hpart, hcount, hbody, -, hend⟩ := hworld
        refine ⟨hsplits, read, _, hpart, hcount, ?_, (hend hempty).imp id .inl⟩
        rw [hempty, List.nil_append] at hbody
        exact hbody
      · refine Ends.bind writeChunk_receives fun _ => ?_
        refine Ends.bind (ticking_ends (receives_steady hhonest)) fun now => ?_
        exact Ends.branch (fun _ => Ends.raise fun _ => receives_stops) fun _ => ih _

/-- What the headers say of a body that continues what was kept. -/
structure Planned (plan : BodyPlan) (body : Content) (early : Bool) : Prop where
  declared : ∀ length, plan.contentLength = some length → length = body.length
  ends : plan.expectedRangeBytes = some body.length ∨ (plan.contentLength = none → early = false)

omit [Outside ω] [TransportServices] in
/-- A body that passes the checks came whole. -/
theorem complete_of_checkReceived {plan : BodyPlan} {read rest : Content} {currentSize : ℕ}
    (hplanned : Planned plan body early) (hbody : read ++ rest = body)
    (hend : rest = [] ∨ early = true ∨ plan.contentLength = some read.length)
    (hcheck : checkReceived plan currentSize read.length = .ok ()) : read = body := by
  unfold checkReceived at hcheck
  split_ifs at hcheck with hlength hrange htotal
  have hwhole : read.length = body.length → read = body := by
    intro hequal
    rw [← hbody, List.length_append] at hequal
    have hrest : rest = [] := List.length_eq_zero_iff.mp (by omega)
    rw [← hbody, hrest, List.append_nil]
  cases hdeclared : plan.contentLength with
  | some length =>
      rw [hdeclared, Option.any_some, decide_eq_true_iff, not_not] at hlength
      exact hwhole (hlength ▸ hplanned.declared length hdeclared)
  | none =>
      rcases hplanned.ends with hexpected | hearly
      · rw [hexpected, Option.any_some, decide_eq_true_iff, not_not] at hrange
        exact hwhole hrange.symm
      · rcases hend with rfl | hend | hend
        · rw [← hbody, List.append_nil]
        · rw [hearly hdeclared] at hend
          cases hend
        · rw [hdeclared] at hend
          cases hend

/-! ## Plans of bodies -/

omit [Outside ω] in
theorem bodyPlan_whole {headers : List (String × String)} {offset : ℕ} {plan : BodyPlan}
    (hplan : bodyPlan 200 headers offset = .ok plan) :
    ∃ length, declaredLength headers = .ok length ∧ plan = ⟨false, none, none, length⟩ := by
  simp only [bodyPlan] at hplan
  rw [if_neg (show ¬ (200 : ℕ) = 206 by decide)] at hplan
  cases hlength : declaredLength headers with
  | error error =>
      rw [hlength] at hplan
      cases hplan
  | ok length =>
      rw [hlength] at hplan
      cases hplan
      exact ⟨length, rfl, by simp⟩

omit [Outside ω] in
theorem bodyPlan_rest {headers : List (String × String)} {offset last total : ℕ} {plan : BodyPlan}
    (hplan : bodyPlan 206 headers offset = .ok plan)
    (hrange : TransportServices.contentRange ((headerOf headers "content-range").getD "") =
      some (offset, last, total)) :
    plan.append = decide (0 < offset) ∧ plan.expectedRangeBytes = some (last - offset + 1) ∧
      ∀ length, plan.contentLength = some length → length = last - offset + 1 := by
  have hstart : (if 0 < offset then offset else 0) = offset := by
    split_ifs <;> omega
  simp only [bodyPlan, if_true, decide_true, Bool.and_true, decide_eq_true_eq, hstart, rangePlan,
    hrange] at hplan
  split_ifs at hplan with hwrong hlast
  · cases hplan
  · cases hplan
  · cases hlength : declaredLength headers with
    | error error =>
        rw [hlength] at hplan
        cases hplan
    | ok declared =>
        rw [hlength] at hplan
        change (if (some (last - offset + 1, total)).isSome ∧ declared.isSome ∧
            declared ≠ some (last - offset + 1) then Except.error _ else Except.ok _) =
          Except.ok plan at hplan
        split_ifs at hplan with hdiffers
        cases hplan
        refine ⟨rfl, rfl, fun length hdeclared => ?_⟩
        change declared = some length at hdeclared
        by_contra hother
        refine hdiffers ⟨rfl, by rw [hdeclared]; rfl, fun hsame => hother ?_⟩
        exact Option.some.inj (hdeclared.symm.trans hsame)

/-! ## The answer -/

/-- The server has answered from this content. -/
structure Answers (server : Server ω) (response : HttpResponse) (offset : ℕ) (full : Content)
    (body : Content × Bool) : Prop where
  whole : response.status = 200 → body.1 = full ∧
    (∀ length, declaredLength (foldedHeaders response.headers) = .ok (some length) →
      length = full.length) ∧
    (declaredLength (foldedHeaders response.headers) = .ok none → body.2 = false)
  rest : response.status = 206 →
    TransportServices.contentRange
        ((headerOf (foldedHeaders response.headers) "content-range").getD "") =
      some (offset, full.length - 1, full.length) ∧
      offset < full.length ∧ body.1 = full.drop offset

/-- The server has answered from a content that it has held, and continues what is kept only
where that is its beginning. -/
def Answered (server : Server ω) (response : HttpResponse) (progress : Progress) (full : Content)
    (world : World ω) : Prop :=
  Holds server full world ∧
    Answers server response progress.offset full (server.body world.env) ∧
    (response.status = 206 → Continuous server world.log → world.disk.part.getD [] <+: full)

theorem answered_steady (hhonest : Honest server) {response : HttpResponse}
    {progress : Progress} {full : Content} :
    Steady (Answered server response progress full : World ω → Prop) := by
  refine holds_steady.and ((steady_body hhonest fun pair =>
    Answers server response progress.offset full pair).and ?_)
  exact Steady.of_env (fun _ _ => id) fun _ _ hbegins hpartial hcontinuous =>
    hbegins hpartial hcontinuous.of_append.1

omit [Outside ω] in
/-- What the headers of an honest answer say of its body. -/
theorem planned_of_answers {response : HttpResponse} {offset : ℕ} {full part : Content}
    {body : Content × Bool} {plan : BodyPlan}
    (hstatus : response.status = 200 ∨ response.status = 206)
    (hanswers : Answers server response offset full body)
    (hplan : bodyPlan response.status (foldedHeaders response.headers) offset = .ok plan)
    (hpart : part.length = offset) :
    Planned plan body.1 body.2 ∧ ((response.status = 206 → part <+: full) →
      (if plan.append then part else []) ++ body.1 = full) := by
  rcases hstatus with hstatus | hstatus
  · obtain ⟨hbody, hdeclared, hearly⟩ := hanswers.whole hstatus
    rw [hstatus] at hplan
    obtain ⟨length, hlength, rfl⟩ := bodyPlan_whole hplan
    refine ⟨⟨fun found hfound => ?_, .inr fun hnone => ?_⟩, ?_⟩
    · change length = some found at hfound
      rw [hbody]
      exact hdeclared found (hfound ▸ hlength)
    · change length = none at hnone
      exact hearly (hnone ▸ hlength)
    · exact fun _ => hbody
  · obtain ⟨hrange, hoffset, hbody⟩ := hanswers.rest hstatus
    rw [hstatus] at hplan
    obtain ⟨happend, hexpected, hdeclared⟩ := bodyPlan_rest hplan hrange
    have hlength : full.length - 1 - offset + 1 = body.1.length := by
      rw [hbody, List.length_drop]
      omega
    refine ⟨⟨fun found hfound => ?_, .inl ?_⟩, fun hbegins => ?_⟩
    · rw [hdeclared found hfound, hlength]
    · rw [hexpected, hlength]
    · have hwhole := List.prefix_iff_eq_append.mp (hbegins hstatus)
      rw [hpart, ← hbody] at hwhole
      rw [happend]
      rcases Nat.eq_zero_or_pos offset with hzero | hpositive
      · rw [hzero] at hpart
        rw [List.length_eq_zero_iff.mp hpart] at hwhole ⊢
        split_ifs <;> exact hwhole
      · rw [if_pos (decide_eq_true hpositive)]
        exact hwhole

/-- The partial file holds a content that the server has held. -/
def Completed (server : Server ω) (full : Content) (world : World ω) : Prop :=
  Holds server full world ∧ (Continuous server world.log → world.disk.part = some full)

omit [TransportServices] in
theorem completed_steady : Steady (Completed server full : World ω → Prop) :=
  holds_steady.and (Steady.of_env (fun _ _ => id) fun _ _ hpart hcontinuous =>
    hpart hcontinuous.of_append.1)

/-- The file is opened where the body is to be put. -/
theorem openPart_receives {response : HttpResponse} {progress : Progress} {origin : World ω}
    {plan : BodyPlan} (hanswered : Answered server response progress full origin)
    (hsplit : (response.status = 206 → origin.disk.part.getD [] <+: full) →
      (if plan.append then origin.disk.part.getD [] else []) ++ (server.body origin.env).1 = full) :
    Ends faults (fun world => world = origin) (openPart plan.append)
      (fun _ => Receives server full (if plan.append then origin.disk.part.getD [] else [])
        (server.body origin.env).1 (server.body origin.env).2 0)
      fun _ => (Keeps server : World ω → Prop) := by
  refine openPart_ends (fun world hworld => ?_) fun stop world _ hworld => ?_
  · subst hworld
    refine ⟨⟨hanswered.1.record _ world.env _ rfl, fun hcontinuous => hsplit fun hpartial => ?_⟩,
      [], ?_, rfl, rfl, rfl⟩
    · exact hanswered.2.2 hpartial hcontinuous.of_append.1
    · rw [List.append_nil]
      rfl
  · subst hworld
    exact hanswered.1.keeps

omit [TransportServices] in
theorem flushPart_received {contentLength : Option ℕ} {byteCount : ℕ} :
    Ends faults (Received server full kept body early contentLength byteCount) flushPart
      (fun _ => Received server full kept body early contentLength byteCount)
      fun _ => (Keeps server : World ω → Prop) :=
  flushPart_ends fun _ world _ _ hworld =>
    (hworld.1.record (.stored _) world.env { world.disk with part := some _ } rfl).1.keeps

omit [TransportServices] in
/-- A body that passed the checks completes the file. -/
theorem Received.completed {plan : BodyPlan} {currentSize byteCount : ℕ} {world : World ω}
    (hplanned : Planned plan body early)
    (hreceived : Received server full kept body early plan.contentLength byteCount world)
    (hcheck : checkReceived plan currentSize byteCount = .ok ()) :
    Completed server full world := by
  obtain ⟨⟨hholds, hsplit⟩, read, rest, hpart, rfl, hbody, hend⟩ := hreceived
  refine ⟨hholds, fun hcontinuous => ?_⟩
  rw [hpart, complete_of_checkReceived hplanned hbody hend hcheck, hsplit hcontinuous]

theorem receiveBody_ends (hhonest : Honest server) {fetching : Fetching} {response : HttpResponse}
    {progress : Progress} {deadline : ℚ} {passes : ℕ}
    (hstatus : response.status = 200 ∨ response.status = 206) :
    Ends faults
      (fun world => Answered server response progress full world ∧ Fits progress world)
      (receiveBody passes ⟨fetching, progress, response.status, deadline⟩
        (foldedHeaders response.headers))
      (fun outcome world => match outcome with
        | none => Keeps server world
        | some _ => Completed server full world)
      fun _ => (Keeps server : World ω → Prop) := by
  refine Ends.fixing fun origin horigin => ?_
  obtain ⟨hanswered, hfits⟩ := horigin
  have hkeeps : ∀ world, world = origin → Keeps server world := by
    rintro world rfl
    exact hanswered.1.keeps
  refine Ends.bind (lift_ends fun _ => hkeeps) fun plan => Ends.given fun hplan => ?_
  obtain ⟨hplanned, hsplit⟩ := planned_of_answers hstatus hanswered.2.1 hplan hfits
  refine Ends.branch (fun _ => Ends.raise hkeeps) fun _ => ?_
  refine Ends.bind (openPart_receives hanswered hsplit) fun _ => ?_
  refine Ends.bind (receiveChunks_ends hhonest passes 0) fun outcome => ?_
  cases outcome with
  | none => exact Ends.ret fun _ => id
  | some byteCount =>
      refine Ends.bind flushPart_received fun _ => ?_
      refine Ends.bind (lift_ends fun _ world hworld => hworld.1.1.keeps) fun _ => ?_
      exact Ends.ret fun world hworld => hworld.1.completed hplanned hworld.2

/-! ## Samples and admissions -/

omit [TransportServices] in
/-- A sample leaves the cache and the partial file as they were. -/
theorem readResponseSample_ends {receiving : Receiving} {kept : World ω → Prop}
    (hkept : Steady kept)
    (hread : ∀ world env count, kept world → kept (world.received count env))
    (henv : ∀ world env, kept world → kept { world with env }) :
    Ends faults kept (readResponseSample receiving) (fun _ => kept) fun _ => kept := by
  have hchunk : ∀ {size : ℕ}, Ends faults kept (readChunk size) (fun _ => kept) fun _ => kept :=
    readChunk_ends (fun world chunk env hworld _ => hread world env chunk.length hworld)
      fun world error env hworld _ => henv world env hworld
  refine Ends.bind Ends.glance fun available => ?_
  refine Ends.branch (fun _ => Ends.ret fun _ => id) fun _ => ?_
  refine Ends.bind ((remaining_ends hkept _ _).to fun _ _ hboth => hboth.1) fun left => ?_
  refine Ends.bind (ticking_ends hkept) fun now => ?_
  refine Ends.branch (fun _ => Ends.raise fun _ => id) fun _ => ?_
  refine Ends.bind hchunk fun sample => ?_
  refine Ends.bind (ticking_ends hkept) fun later => ?_
  exact Ends.branch (fun _ => Ends.raise fun _ => id) fun _ => Ends.ret fun _ => id

/-- What was returned was held by the server, as all that is stored. -/
def Returned (server : Server ω) (source : DownloadedSource) (world : World ω) : Prop :=
  Continuous server world.log → Stored server world ∧ Held server world.log source.content

/-- A complete file becomes the data file. -/
theorem admit_ends {fetching : Fetching} {status : ℕ} {contentType retrievedAt : String}
    {content : Content} {operationBytes : ℕ} {record : SourceTransportProvenance} :
    Ends faults (fun world => Completed server full world ∧ world.disk.part = some content)
      (admitContent fetching status contentType retrievedAt content operationBytes record)
      (fun turn world => ∃ source, turn = .returned source ∧ Returned server source world)
      fun _ => (Keeps server : World ω → Prop) := by
  have hdata : Ends faults
      (fun world => Completed server full world ∧ world.disk.part = some content) replaceData
      (fun _ => Holds server content) fun _ => (Keeps server : World ω → Prop) := by
    refine replaceData_ends (fun world found hworld hpart => ?_)
      fun stop world hworld => hworld.1.1.keeps
    obtain ⟨⟨hholds, hfull⟩, hcontent⟩ := hworld
    cases hpart.symm.trans hcontent
    intro hcontinuous
    obtain ⟨hlog, -⟩ := hcontinuous.of_append
    have hsame : full = content := Option.some.inj ((hfull hlog).symm.trans hcontent)
    have hheld : Held server (dataAdmitted content world).log content :=
      hsame ▸ (hholds hlog).2.append _
    refine ⟨fun other hother => ?_, hheld⟩
    cases hother
    exact hheld
  refine Ends.bind hdata fun _ => ?_
  refine Ends.bind (writeCacheMetadata_ends (fun world temporary hworld => hworld)
    (fun world hworld => hworld.record .metadataReplaced world.env
      { world.disk with metadata := some _, temporary := none } rfl)
    fun _ _ hworld => hworld.keeps) fun _ => ?_
  exact Ends.ret fun world hworld => ⟨_, rfl, hworld⟩

/-! ## The request loop -/

def downloadConditions (server : Server ω) : Conditions ω where
  going _ _ := Keeps server
  ready _ _ := Keeps server
  answered response progress world := ∃ full, Answered server response progress full world
  complete _ world := ∃ full, Completed server full world
  returned := Returned server
  stuck := Keeps server
  stopped := Keeps server

omit [TransportServices] in
theorem Keeps.sent {world : World ω} (hkeeps : Keeps server world) (request : HttpRequest)
    (startedAt : ℚ) (env : ω) : Keeps server (world.sent request startedAt env) :=
  hkeeps.record (.dispatched request world.env world.disk) env world.disk rfl

/-- An honest answer is from what the server holds. -/
theorem answered_of_dispatched (hhonest : Honest server) {world : World ω} {progress : Progress}
    {request : HttpRequest} {startedAt : ℚ} {response : HttpResponse} {env : ω}
    (hkeeps : Keeps server world) (hheaders : request.headers = requestHeaders progress.offset)
    (hanswer : Outside.request request world.env = (.ok response, env)) :
    Answered server response (Progress.requested progress)
      (server.representation world.env request.url) (world.sent request startedAt env) := by
  refine ⟨fun hcontinuous => ⟨hkeeps.sent request startedAt env hcontinuous, ?_⟩, ⟨?_, ?_⟩, ?_⟩
  · exact ⟨request, world.env, world.disk,
      List.mem_append_right _ (List.mem_singleton_self _), rfl⟩
  · exact hhonest.whole request world.env response env hanswer
  · exact hhonest.rest request progress.offset world.env response env hanswer hheaders
  · intro hpartial hcontinuous
    have hcontinues := hcontinuous.of_append.2
    exact hcontinues response (by rw [hanswer]) hpartial

theorem downloadConditions_carried (hhonest : Honest server) (fetching : Fetching) (reads : ℕ) :
    Carried faults fetching reads (downloadConditions server) where
  going_steady _ _ := keeps_steady
  ready_steady _ _ := keeps_steady
  answered_steady _ _ := Steady.exists fun _ => answered_steady hhonest
  complete_steady _ := Steady.exists fun _ => completed_steady
  stopped_steady := keeps_steady
  going_pausing _ _ _ _ hkeeps _ := hkeeps.record _ _ _ rfl
  ready_pausing _ _ _ _ hkeeps _ := hkeeps.record _ _ _ rfl
  going_stopped _ _ _ := id
  ready_going _ _ _ := id
  answered_going _ _ _ := fun ⟨_, hanswered⟩ => hanswered.1.keeps
  complete_stopped _ _ := fun ⟨_, hcompleted⟩ => hcompleted.1.keeps
  going_similar _ _ _ _ hkeeps _ := hkeeps
  going_authorized _ _ _ world hkeeps := hkeeps.record _ world.env world.disk rfl
  ready_similar _ _ _ _ hkeeps _ := hkeeps
  ready_authorized _ _ _ world hkeeps := hkeeps.record _ world.env world.disk rfl
  complete_authorized _ _ world := fun ⟨full, hholds, hpart⟩ =>
    ⟨full, hholds.record _ world.env world.disk rfl, fun hcontinuous =>
      hpart hcontinuous.of_append.1⟩
  checked _ world hkeeps _ := hkeeps.record _ world.env world.disk rfl
  dispatched _ _ _ _ _ _ hkeeps _ _ hheaders hanswer :=
    ⟨_, answered_of_dispatched hhonest hkeeps hheaders hanswer⟩
  undispatched _ _ request startedAt _ env hkeeps _ _ := hkeeps.sent request startedAt env
  retried _ _ world hkeeps _ := hkeeps.record _ world.env world.disk rfl
  redirected _ _ world _ _ hkeeps _ _ _ := hkeeps.record _ world.env world.disk rfl
  emptied _ _ world hkeeps := hkeeps.record _ world.env { world.disk with part := some [] } rfl
  discarded _ _ _ := id
  complete_discarded _ _ := fun ⟨_, hcompleted⟩ => hcompleted.1.keeps
  sampled _ progress _ _ := by
    have hkept : Steady fun world : World ω => Keeps server world ∧ Fits progress world :=
      keeps_steady.and (fits_steady progress)
    refine (readResponseSample_ends hkept (fun world env count hworld =>
      ⟨hworld.1.record (.received count) env world.disk rfl, hworld.2⟩)
      fun _ _ => id).weaken ?_ (fun _ _ => id) ?_
    · rintro world ⟨⟨full, hanswered⟩, hfits, -⟩
      exact ⟨hanswered.1.keeps, hfits⟩
    · rintro (error | _) world hworld
      · exact hworld
      · exact hworld.1
  received response progress deadline before hstatus := by
    have hbody : Ends faults
        (fun world => ∃ full, Answered server response progress full world ∧ Fits progress world)
        (receiveBody reads ⟨fetching, progress, response.status, deadline⟩
          (foldedHeaders response.headers))
        (fun outcome world => match outcome with
          | none => Keeps server world
          | some _ => ∃ full, Completed server full world) fun _ => Keeps server := by
      refine Ends.among fun full => (receiveBody_ends hhonest hstatus).to fun outcome world hend => ?_
      cases outcome with
      | none => exact hend
      | some received => exact ⟨full, hend⟩
    refine hbody.weaken ?_ (fun outcome world hend => ?_) ?_
    · rintro world ⟨⟨full, hanswered⟩, hfits, -⟩
      exact ⟨full, hanswered, hfits⟩
    · rcases outcome with _ | ⟨received, appended⟩
      · exact hend
      · exact hend
    · rintro (error | _) world hworld
      · exact hworld
      · exact hworld
  admitted progress status contentType retrievedAt content record _ _ := by
    have hadmit : Ends faults
        (fun world => ∃ full, Completed server full world ∧ world.disk.part = some content)
        (admitContent fetching status contentType retrievedAt content progress.operationBytes record)
        (fun turn world => ∃ source, turn = .returned source ∧ Returned server source world)
        fun _ => (Keeps server : World ω → Prop) := Ends.among fun full => admit_ends
    refine hadmit.from ?_
    rintro world ⟨⟨full, hcompleted⟩, hpart⟩
    exact ⟨full, hcompleted, hpart⟩

/-! ## Runs -/

variable {url : String}

theorem download_opening (hhonest : Honest server) (downloader : Downloader) (reads : ℕ) :
    Opening faults downloader url reads (fun _ => downloadConditions server) (Returned server)
      (Keeps server) (Keeps server) (Keeps server) (Keeps server) (fun _ => Keeps server)
      (fun _ _ => Keeps server) where
  carries fetching _ _ := downloadConditions_carried hhonest fetching reads
  returned_returned _ _ _ := id
  stuck_stuck _ _ := id
  stopped_stopped _ _ := id
  begins world hkeeps := hkeeps.record _ world.env world.disk rfl
  begun_utcnow _ := id
  begun_stopped _ := id
  serves world source hkeeps hcached hcontinuous := by
    have hstored := hkeeps hcontinuous
    exact ⟨hstored, hstored source.content (readCacheFiles_data hcached)⟩
  opens _ world _ hkeeps := keeps_steady.monotonic world hkeeps
  opened_steady _ := keeps_steady
  opened_stopped _ _ := id
  grants _ _ world hkeeps := hkeeps.record _ world.env world.disk rfl
  granted_stopped _ _ _ := id
  goes _ _ _ hkeeps _ _ := hkeeps

theorem call_ends (hhonest : Honest server) (session : Session ω) :
    Ends (fun _ => True) (Keeps server) (session.call url)
      (FetchEnd session.downloader session.passes (Returned server) (Keeps server) (Keeps server))
      fun _ => Keeps server :=
  fetch_ends (download_opening hhonest session.downloader session.reads)

theorem call_keeps (hhonest : Honest server) (session : Session ω) (world : World ω)
    (hkeeps : Keeps server world) :
    Keeps server ((session.call url).leaves session.fates (session.found world)) := by
  refine Ends.leaves ((call_ends hhonest session).to fun outcome later hend => ?_)
    (show Keeps server (session.found world) from hkeeps) fun _ => trivial
  cases outcome with
  | some source => exact fun hcontinuous => (hend hcontinuous).1
  | none => exact hend.elim id And.left

/-- What is stored, and what the last call returned. -/
structure Whole (server : Server ω) (url : String) (sessions : List (Session ω))
    (session : Session ω) (world : World ω) : Prop where
  stored : Stored server (runSessions url (sessions ++ [session]) world)
  returned : ∀ source,
    (session.call url session.fates 0 (session.found (runSessions url sessions world))).2.2 =
      .ok (some source) →
    Held server (runSessions url (sessions ++ [session]) world).log source.content

/-- In every run over an empty cache against an honest server, in which a partial file is
continued only while it is the beginning of what the server holds, each content that is
stored or returned is one representation that the server held at one of the requests. -/
theorem downloads_whole (hhonest : Honest server) (url : String) (sessions : List (Session ω))
    (session : Session ω) (world : World ω) (hempty : world.disk.data = none)
    (hcontinuous :
      Continuous server (runSessions url (sessions ++ [session]) world).log) :
    Whole server url sessions session world := by
  have hstart : Keeps server world := fun _ content hcontent => by
    rw [hempty] at hcontent
    cases hcontent
  have hbefore : Keeps server (runSessions url sessions world) :=
    runSessions_keeps (call_keeps hhonest) sessions world hstart
  have hlast : runSessions url (sessions ++ [session]) world =
      (session.call url).leaves session.fates
        (session.found (runSessions url sessions world)) := by
    rw [runSessions, List.foldl_append]
    rfl
  rw [hlast] at hcontinuous
  refine ⟨?_, fun source hsource => ?_⟩
  · rw [hlast]
    exact call_keeps hhonest session _ hbefore hcontinuous
  · rw [hlast]
    have hends : Ends (fun _ => True) (Keeps server) (session.call url)
        (FetchEnd session.downloader session.passes (Returned server) (Keeps server)
          (Keeps server)) fun _ => Keeps server := call_ends hhonest session
    have hend := hends session.fates 0 (session.found (runSessions url sessions world))
      (fun _ => trivial) hbefore
    unfold Call.leaves at hcontinuous ⊢
    rcases hcall : session.call url session.fates 0
      (session.found (runSessions url sessions world)) with ⟨next, later, result⟩
    rw [hcall] at hend hsource hcontinuous
    change result = .ok (some source) at hsource
    subst hsource
    exact (hend hcontinuous).2

end Downloads

/-! ## A changed representation -/

section Changing

/-- A host that cuts the first body after one byte, and may change what it holds then. -/
structure ChangingHost where
  changes : Bool
  requests : ℕ
  left : Content

def held (host : ChangingHost) : Content :=
  if host.changes && 0 < host.requests then [4, 5, 6] else [1, 2, 3]

def hostServer : Server ChangingHost := ⟨fun host _ => held host, ChangingHost.left, fun _ => false⟩

def hostEntry : ManifestEntry :=
  ⟨"u", "AUTOMATED_API", "PUBLIC", acquisitionOperations, some (5, 9, 9), some false⟩

def hostManifest : Manifest :=
  ⟨"research-source-use-manifest-v1", "RESEARCH_ONLY", 70, "ACQUISITION", [hostEntry]⟩

local instance : Outside ChangingHost where
  monotonic host := (0, host)
  utcnow host := (⟨0, some ""⟩, host)
  sleep _ host := host
  requireCurrent _ host := (.ok hostManifest, host)
  resolvePublicIps _ host := (.ok ["a"], host)
  request request host :=
    if request.headers = requestHeaders 1 then
      (.ok ⟨206, [("content-range", "")]⟩,
        { host with requests := host.requests + 1, left := (held host).drop 1 })
    else (.ok ⟨200, []⟩, { host with requests := host.requests + 1, left := held host })
  read size host :=
    if host.requests ≠ 1 then
      (.ok (host.left.take size), { host with left := host.left.drop size })
    else if host.left.length = 3 then
      (.ok (host.left.take 1), { host with left := host.left.drop 1 })
    else (.error .incompleteRead, host)
  cacheSize host := (0, host)

local instance : TransportServices where
  casefold text := text
  urlsplit _ := some ⟨"https", some "h", none, none, none, "", "", "", ""⟩
  urljoin _ target := some target
  sha256 _ := ""
  foldedText _ := ""
  retryAfter _ _ := .ok 0
  contentRange _ := some (1, 2, 3)
  integer _ := none
  ipAddress _ := some ⟨4, 1, true⟩
  instant _ := some (some 0)
  describe _ := ""
  recordLength _ := 0

theorem requestHeaders_one {offset : ℕ} (hheaders : requestHeaders 1 = requestHeaders offset) :
    offset = 1 := by
  unfold requestHeaders at hheaders
  rw [if_neg (by decide)] at hheaders
  split_ifs at hheaders with hzero
  · cases hheaders
  · have hrange := List.append_cancel_left hheaders
    have htext : (1 : ℕ).repr = offset.repr := by
      have hvalue := congrArg Prod.snd (List.head_eq_of_cons_eq hrange)
      change "bytes=" ++ Nat.repr 1 ++ "-" = "bytes=" ++ Nat.repr offset ++ "-" at hvalue
      exact (String.append_right_inj _).mp ((String.append_left_inj _).mp hvalue)
    have hdigits := congrArg (fun text => Nat.ofDigitChars 10 (String.toList text) 0) htext
    simp only [Nat.toList_repr, Nat.ofDigitChars_ten_toDigits] at hdigits
    exact hdigits.symm

theorem held_length (host : ChangingHost) : (held host).length = 3 := by
  unfold held
  split_ifs <;> rfl

theorem hostServer_honest : Honest hostServer where
  whole request host response next hanswer hstatus := by
    simp only [Outside.request] at hanswer
    split_ifs at hanswer
    · cases hanswer
      cases hstatus
    · cases hanswer
      exact ⟨rfl, nofun, fun _ => rfl⟩
  rest request offset host response next hanswer hheaders hstatus := by
    simp only [Outside.request] at hanswer
    split_ifs at hanswer with hone
    · cases hanswer
      rw [hheaders] at hone
      rw [requestHeaders_one hone.symm]
      change some (1, 2, 3) = some (1, (held host).length - 1, (held host).length) ∧
        1 < (held host).length ∧ _
      rw [held_length]
      exact ⟨rfl, by decide, rfl⟩
    · cases hanswer
      cases hstatus
  reads size host chunk next hsize hread := by
    simp only [Outside.read] at hread
    split_ifs at hread with hsecond hwhole
    · cases hread
      refine ⟨List.take_append_drop size host.left, rfl, fun hempty => .inl ?_⟩
      exact (List.take_eq_nil_iff.mp hempty).resolve_left (Nat.pos_iff_ne_zero.mp hsize)
    · cases hread
      refine ⟨List.take_append_drop 1 host.left, rfl, fun hempty => .inl ?_⟩
      exact (List.take_eq_nil_iff.mp hempty).resolve_left (by decide)
    · cases hread
  monotonic _ := rfl
  utcnow _ := rfl
  requireCurrent _ _ := rfl
  resolvePublicIps _ _ := rfl
  cacheSize _ := rfl

def hostPolicy : SourceTransportPolicy where
  allowedEndpoints := [⟨"h", ""⟩]
  allowedCrossHostRedirects := []
  maxRequestCount := 5
  maxTotalBytes := 9
  perRequestTimeoutSeconds := 1
  totalElapsedBudgetSeconds := 1
  minimumPacingIntervalSeconds := 0
  retryCount := 1
  baseBackoffSeconds := 0
  maximumBackoffSeconds := 0
  redirectCount := 0
  endpoints_configured := by decide
  limits_positive := by decide
  timeouts_positive := by decide
  durations_nonneg := by decide

def hostDownloader : Downloader where
  maxSourceBytes := 9
  networkCapBytes := 9
  timeoutSeconds := 1
  cacheTtlSeconds := 1
  cacheStorageCapBytes := 1000
  policy := hostPolicy
  authorizationSupplied := true
  resolverSupplied := true
  limits_positive := by decide
  timeout_positive := by decide

def hostSession (changes : Bool) : Session ChangingHost :=
  ⟨hostDownloader, 0, 0, none, true, some "d", 5, 3, fun _ => .proceed, ⟨changes, 0, []⟩⟩

def hostStart : World ChangingHost :=
  ⟨⟨false, 0, []⟩, ⟨none, none, none, none⟩, 0, 0, none, []⟩

/-- The first byte of the old content is stored with the rest of the new one. -/
theorem mixed_content_stored : Honest hostServer ∧
    (runSessions "u" [hostSession true] hostStart).disk.data = some [1, 5, 6] ∧
    ¬ Stored hostServer (runSessions "u" [hostSession true] hostStart) := by
  have hdata : (runSessions "u" [hostSession true] hostStart).disk.data = some [1, 5, 6] := by
    decide +kernel
  refine ⟨hostServer_honest, hdata, fun hstored => ?_⟩
  obtain ⟨request, host, disk, -, hcontent⟩ := hstored _ hdata
  change held host = [1, 5, 6] at hcontent
  unfold held at hcontent
  split_ifs at hcontent
  · cases hcontent
  · cases hcontent

/-- Whether the partial file is the beginning of what the host holds. -/
def continues : Event ChangingHost → Bool
  | .dispatched _ host disk => (disk.part.getD []).isPrefixOf (held host)
  | _ => true

theorem continuous_of_all {log : List (Event ChangingHost)} (hlog : log.all continues = true) :
    Continuous hostServer log := by
  intro event hmem
  have hcontinues := List.all_eq_true.mp hlog event hmem
  cases event with
  | dispatched request host disk =>
      exact fun _ _ _ => List.isPrefixOf_iff_prefix.mp hcontinues
  | _ => trivial

theorem resumed_content_whole : Whole hostServer "u" [] (hostSession false) hostStart :=
  downloads_whole hostServer_honest "u" [] (hostSession false) hostStart rfl
    (continuous_of_all (by decide +kernel))

end Changing

end MatchVet.Ingestion.ResumedDownload
