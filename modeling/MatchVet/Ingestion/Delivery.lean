import MatchVet.Ingestion.FetchRules

/-!
# Delivery of a body

A server that delivers a body in time, chunk by chunk, has it received whole when no file
operation fails and the byte budgets reach.  A body that takes exactly what is left of them
is received when its length was declared.
-/

namespace MatchVet.Ingestion.Delivery

open MatchVet.Foundation.CrashLogic
open MatchVet.Ingestion.Downloader
open MatchVet.Ingestion.Fetch
open MatchVet.Ingestion.FetchRules
open MatchVet.Ingestion.Transport

variable {ω : Type} [Outside ω]

/-- No effect is disturbed. -/
def Undisturbed (fate : Fate Leftover) : Prop := fate = .proceed

/-- A server delivers what is left of a body: every read brings a part of it, and none is
empty before the end.  The clock stays below a limit. -/
structure Delivers (left : ω → Content → Prop) (limit : ℚ) : Prop where
  reads : ∀ env body size, left env body → 0 < size → ∃ chunk rest next,
    Outside.read size env = (.ok chunk, next) ∧ chunk ++ rest = body ∧ chunk.length ≤ size ∧
      (chunk = [] → body = []) ∧ left next rest
  ticks : ∀ env body, left env body →
    (Outside.monotonic env).1 < limit ∧ left (Outside.monotonic env).2 body

/-- A condition that does not look at the outside world or at the clock. -/
structure Unmoved (kept : World ω → Prop) : Prop where
  env : ∀ world env, kept world → kept { world with env }
  clock : ∀ world now, kept world → kept (world.record (.clock now))

variable {left : ω → Content → Prop} {limit : ℚ} {kept : World ω → Prop}
  {faults : Fate Leftover → Prop} {stopped : Stop SourceError → World ω → Prop}

omit [Outside ω] in
theorem fileCall_undisturbed {α : Type} {residue : Leftover → World ω → World ω}
    {update : World ω → Except SourceError α × World ω} {after : α → World ω → Prop}
    (hafter : ∀ world value next, kept world → update world = (.ok value, next) →
      after value next)
    (herror : ∀ world error next, kept world → update world = (.error error, next) →
      stopped (.raised error) next) :
    Ends Undisturbed kept (fileCall residue update) after stopped :=
  Ends.disturbed hafter herror (fun _ _ hfault => nomatch hfault)
    fun _ _ hfault => nomatch hfault

/-! ## Clocks -/

theorem monotonic_delivers (hdelivers : Delivers left limit) (hkept : Unmoved kept)
    {body : Content} :
    Ends faults (fun world => left world.env body ∧ kept world) monotonic
      (fun now world => (left world.env body ∧ kept world) ∧ now < limit) stopped := by
  refine Ends.ask (fun world now next hworld hanswer => ?_) fun world error next _ hanswer => ?_
  · cases hanswer
    obtain ⟨hnow, hleft⟩ := hdelivers.ticks world.env body hworld.1
    exact ⟨⟨hleft, hkept.clock _ _ (hkept.env world _ hworld.2)⟩, hnow⟩
  · cases hanswer

variable {receiving : Receiving}

/-- The limit comes before the deadline of the request and the end of the elapsed budget. -/
structure InTime (receiving : Receiving) (limit : ℚ) : Prop where
  deadline : limit ≤ receiving.deadline
  elapsed : limit ≤ receiving.fetching.start +
    receiving.fetching.downloader.policy.totalElapsedBudgetSeconds

theorem remaining_delivers (hdelivers : Delivers left limit) (hkept : Unmoved kept)
    (htime : InTime receiving limit) {body : Content} :
    Ends faults (fun world => left world.env body ∧ kept world)
      (remaining receiving.fetching.downloader receiving.fetching.start)
      (fun rest world => (left world.env body ∧ kept world) ∧ 0 < rest) stopped := by
  refine Ends.bind (monotonic_delivers hdelivers hkept) fun now => Ends.ret fun world hworld => ?_
  have helapsed := htime.elapsed
  exact ⟨hworld.1, sub_pos.mpr (sub_lt_iff_lt_add'.mpr (lt_of_lt_of_le hworld.2 helapsed))⟩

theorem requireElapsed_delivers (hdelivers : Delivers left limit) (hkept : Unmoved kept)
    (htime : InTime receiving limit) {body : Content} {trail : Trail} {url : String} :
    Ends faults (fun world => left world.env body ∧ kept world)
      (requireElapsed receiving.fetching.downloader receiving.fetching.start trail url)
      (fun _ world => left world.env body ∧ kept world) stopped := by
  refine Ends.bind (remaining_delivers hdelivers hkept htime) fun rest => ?_
  refine Ends.branch (fun hspent => ?_) fun _ => Ends.ret fun _ hworld => hworld.1
  exact fun _ _ _ _ hworld => absurd hworld.2 (not_lt.mpr hspent)

/-- The clock is read before the deadline. -/
theorem deadline_delivers {α : Type} (hdelivers : Delivers left limit) (hkept : Unmoved kept)
    (htime : InTime receiving limit) {body : Content} {error : SourceError}
    {next : TransportCall ω α} {after : α → World ω → Prop}
    (hnext : Ends faults (fun world => left world.env body ∧ kept world) next after stopped) :
    Ends faults (fun world => left world.env body ∧ kept world)
      (do
        let now ← monotonic
        if receiving.deadline ≤ now then Call.raise error else next) after stopped := by
  refine Ends.bind (monotonic_delivers hdelivers hkept) fun now => ?_
  refine Ends.branch (fun hlate => ?_) fun _ => hnext.from fun _ hworld => hworld.1
  exact fun _ _ _ _ hworld =>
    absurd (htime.deadline.trans hlate) (not_le.mpr hworld.2)

/-! ## The loop that reads a body -/

/-- So much of the body is still to come, and the budgets reach for it. -/
def Expects (receiving : Receiving) (contentLength : Option ℕ) (currentSize byteCount : ℕ)
    (part rest : Content) (world : World ω) : Prop :=
  world.disk.part = some part ∧
    rest.length ≤ bodyBudget receiving currentSize byteCount world ∧
    (contentLength = some (byteCount + rest.length) ∨
      rest.length < bodyBudget receiving currentSize byteCount world)

omit [Outside ω] in
theorem expects_unmoved {contentLength : Option ℕ} {currentSize byteCount : ℕ}
    {part rest : Content} :
    Unmoved (Expects receiving contentLength currentSize byteCount part rest : World ω → Prop) :=
  ⟨fun _ _ => id, fun _ _ => id⟩

theorem min_le_add_min {first second later last count : ℕ} (hfirst : first ≤ count + later)
    (hsecond : second ≤ count + last) : min first second ≤ count + min later last := by
  rw [← Nat.add_min_add_left]
  exact min_le_min hfirst hsecond

omit [Outside ω] in
/-- The budgets reach for what comes after a chunk. -/
theorem Expects.received {contentLength : Option ℕ} {currentSize byteCount : ℕ}
    {part chunk rest : Content} {world : World ω} {env : ω}
    (hexpects : Expects receiving contentLength currentSize byteCount part (chunk ++ rest) world) :
    Expects receiving contentLength currentSize (byteCount + chunk.length) part rest
      (world.received chunk.length env) := by
  obtain ⟨hpart, hbudget, hlength⟩ := hexpects
  rw [List.length_append, ← Nat.add_assoc] at hlength
  rw [List.length_append] at hbudget
  have hrest : bodyBudget receiving currentSize byteCount world ≤ chunk.length +
      bodyBudget receiving currentSize (byteCount + chunk.length)
        (world.received chunk.length env) := by
    simp only [bodyBudget, World.received]
    exact min_le_add_min (min_le_add_min (by omega) (by omega))
      (min_le_add_min (min_le_add_min (by omega) (by omega)) (by omega))
  exact ⟨hpart, by omega, hlength.imp id fun hbelow => by omega⟩

theorem readChunk_delivers (hdelivers : Delivers left limit) {contentLength : Option ℕ}
    {currentSize byteCount size : ℕ} {part body : Content} (hsize : 0 < size) :
    Ends faults
      (fun world => left world.env body ∧
        Expects receiving contentLength currentSize byteCount part body world)
      (readChunk size)
      (fun chunk world => ∃ rest, chunk ++ rest = body ∧ (chunk = [] → body = []) ∧
        left world.env rest ∧ Expects receiving contentLength currentSize
          (byteCount + chunk.length) part rest world) stopped := by
  refine readChunk_ends (fun world found env hworld hanswer => ?_)
    fun world error env hworld hanswer => ?_
  all_goals
    obtain ⟨chunk, rest, next, hread, rfl, -, hempty, hleft⟩ :=
      hdelivers.reads world.env body size hworld.1 hsize
    cases hread.symm.trans hanswer
  exact ⟨rest, rfl, hempty, hleft, hworld.2.received⟩

omit [Outside ω] in
theorem writeChunk_delivers {contentLength : Option ℕ} {currentSize byteCount : ℕ}
    {part chunk rest : Content} :
    Ends Undisturbed
      (fun world => left world.env rest ∧
        Expects receiving contentLength currentSize byteCount part rest world)
      (writeChunk chunk)
      (fun _ world => left world.env rest ∧
        Expects receiving contentLength currentSize byteCount (part ++ chunk) rest world)
      stopped := by
  refine fileCall_undisturbed (fun world value next hworld hanswer => ?_)
    fun world error next _ hanswer => ?_
  · obtain ⟨-, rfl⟩ := Prod.mk.inj hanswer
    obtain ⟨hleft, hpart, hbudget⟩ := hworld
    rw [hpart]
    exact ⟨hleft, rfl, hbudget⟩
  · cases hanswer

/-- The loop receives all that is left of a body. -/
theorem receiveChunks_delivers (hdelivers : Delivers left limit) (htime : InTime receiving limit)
    {contentLength : Option ℕ} {currentSize : ℕ} (passes byteCount : ℕ) (part body : Content)
    (hpasses : body.length < passes) :
    Ends Undisturbed
      (fun world => left world.env body ∧
        Expects receiving contentLength currentSize byteCount part body world)
      (receiveChunks receiving contentLength currentSize passes byteCount)
      (fun outcome world => outcome = some (byteCount + body.length) ∧ left world.env [] ∧
        world.disk.part = some (part ++ body)) stopped := by
  induction passes generalizing byteCount part body with
  | zero => exact absurd hpasses (Nat.not_lt_zero _)
  | succ passes ih =>
      refine Ends.bind Ends.seen fun budget => ?_
      refine Ends.branch (fun hspent => ?_) fun hbudget => ?_
      · -- The budget is spent exactly by a body whose length was declared.
        refine Ends.branch (fun _ => Ends.ret fun world hworld => ?_) fun hopen => ?_
        · obtain ⟨⟨hleft, hpart, hlength, -⟩, rfl⟩ := hworld
          have hempty := List.length_eq_zero_iff.mp (Nat.le_zero.mp (hspent ▸ hlength))
          subst hempty
          exact ⟨rfl, hleft, by rw [hpart, List.append_nil]⟩
        · refine fun _ _ world _ hworld => ?_
          obtain ⟨⟨-, -, hlength, hdeclared⟩, rfl⟩ := hworld
          rw [hspent] at hlength hdeclared
          rw [Nat.le_zero.mp hlength] at hdeclared
          exact absurd (hdeclared.resolve_right (Nat.lt_irrefl 0)) hopen
      refine (show Ends Undisturbed (fun world => left world.env body ∧
        Expects receiving contentLength currentSize byteCount part body world) _ _ stopped from
          ?_).from fun world hworld => hworld.1
      refine Ends.bind (requireElapsed_delivers hdelivers expects_unmoved htime) fun _ => ?_
      refine Ends.bind (monotonic_delivers hdelivers expects_unmoved) fun now => ?_
      refine Ends.given fun hnow => ?_
      refine Ends.bind (remaining_delivers hdelivers expects_unmoved htime) fun rest => ?_
      refine Ends.given fun hrest => ?_
      refine Ends.branch (fun hlate => ?_) fun _ => ?_
      · have hearly : 0 < min (receiving.deadline - now) rest :=
          lt_min (sub_pos.mpr (lt_of_lt_of_le hnow htime.deadline)) hrest
        exact absurd hlate (not_le.mpr hearly)
      refine Ends.bind (readChunk_delivers hdelivers
        (Nat.pos_of_ne_zero fun hzero => ?_)) fun chunk => ?_
      · rcases min_choice (64 * 1024) budget with hmin | hmin
        · rw [hmin] at hzero
          cases hzero
        · exact hbudget (hmin.symm.trans hzero)
      refine Ends.fixing fun world hworld => ?_
      obtain ⟨remainder, rfl, hempty, hleft, hexpects⟩ := hworld
      refine (show Ends Undisturbed (fun world => left world.env remainder ∧
        Expects receiving contentLength currentSize (byteCount + chunk.length) part remainder
          world) _ _ stopped from ?_).from fun state hstate => hstate ▸ ⟨hleft, hexpects⟩
      refine Ends.branch (fun hend => ?_) fun hchunk => ?_
      · refine deadline_delivers hdelivers expects_unmoved htime (Ends.ret fun later hlater => ?_)
        have hnil := hempty hend
        rw [hend, List.nil_append] at hnil
        subst hnil
        subst hend
        exact ⟨rfl, hlater.1, by rw [hlater.2.1, List.append_nil, List.append_nil]⟩
      · refine Ends.bind writeChunk_delivers fun _ => ?_
        refine deadline_delivers hdelivers expects_unmoved htime ?_
        have hpositive := List.length_pos_iff.mpr hchunk
        rw [List.length_append] at hpasses
        refine (ih (byteCount + chunk.length) (part ++ chunk) remainder (by omega)).to
          fun outcome later hlater => ?_
        rw [List.length_append, ← Nat.add_assoc, ← List.append_assoc]
        exact hlater

/-! ## The whole body -/

/-- Where the body goes in the partial file. -/
def BodyPlan.currentSize (plan : BodyPlan) (offset : ℕ) : ℕ := if plan.append then offset else 0

/-- The headers announce the body as it is: it is within the size limit, and of the length
that was declared. -/
structure Announces (receiving : Receiving) (plan : BodyPlan) (body : Content) : Prop where
  total : ∀ total ∈ plan.totalLength, total ≤ receiving.fetching.downloader.maxSourceBytes
  complete : checkReceived plan (BodyPlan.currentSize plan receiving.progress.offset)
    body.length = .ok ()

/-- The byte budgets reach for a body: what is left of them is more, or is just what was
declared. -/
def Reaches (receiving : Receiving) (plan : BodyPlan) (body : Content) (world : World ω) : Prop :=
  let budget := bodyBudget receiving (BodyPlan.currentSize plan receiving.progress.offset) 0 world
  body.length ≤ budget ∧ (plan.contentLength = some body.length ∨ body.length < budget)

section Serving

variable [TransportServices]

/-- A body that is delivered, announced as it is and within the budgets is received whole. -/
theorem receiveBody_delivers (hdelivers : Delivers left limit) (htime : InTime receiving limit)
    {plan : BodyPlan} {headers : List (String × String)} {body : Content} {passes : ℕ}
    (part : Content) (hplan : bodyPlan receiving.status headers receiving.progress.offset = .ok plan)
    (hannounces : Announces receiving plan body) (hpasses : body.length < passes) :
    Ends Undisturbed
      (fun world => left world.env body ∧ Reaches receiving plan body world ∧
        world.disk.part.getD [] = part)
      (receiveBody passes receiving headers)
      (fun outcome world => outcome = some (body.length, plan.append) ∧ left world.env [] ∧
        world.disk.part = some ((if plan.append then part else []) ++ body)) stopped := by
  unfold receiveBody
  rw [hplan]
  change Ends Undisturbed _ (if plan.totalLength.any
      (receiving.fetching.downloader.maxSourceBytes < ·) = true then _ else _) _ _
  refine Ends.branch (fun hlarge => ?_) fun _ => ?_
  · obtain ⟨total, htotal, hexceeds⟩ := Option.any_eq_true _ _ |>.mp hlarge
    exact absurd (of_decide_eq_true hexceeds) (not_lt.mpr (hannounces.total total htotal))
  have hopened : Ends Undisturbed
      (fun world => left world.env body ∧ Reaches receiving plan body world ∧
        world.disk.part.getD [] = part) (openPart plan.append)
      (fun _ world => left world.env body ∧ Expects receiving plan.contentLength
        (BodyPlan.currentSize plan receiving.progress.offset) 0
        (if plan.append then part else []) body world) stopped := by
    unfold openPart fileStep
    refine fileCall_undisturbed (fun world value next hworld hanswer => ?_)
      fun world error next _ hanswer => ?_
    · obtain ⟨-, rfl⟩ := Prod.mk.inj hanswer
      obtain ⟨hleft, ⟨hbudget, hdeclared⟩, rfl⟩ := hworld
      refine ⟨hleft, rfl, hbudget, ?_⟩
      rw [Nat.zero_add]
      exact hdeclared
    · cases hanswer
  refine Ends.bind hopened fun _ => ?_
  refine Ends.bind (receiveChunks_delivers hdelivers htime passes 0 _ body hpasses)
    fun outcome => ?_
  cases outcome with
  | none => exact fun _ _ _ _ hworld => nomatch hworld.1
  | some byteCount =>
      have hflushed : Ends Undisturbed
          (fun world => some byteCount = some (0 + body.length) ∧ left world.env [] ∧
            world.disk.part = some ((if plan.append then part else []) ++ body)) flushPart
          (fun _ world => (left world.env [] ∧
            world.disk.part = some ((if plan.append then part else []) ++ body)) ∧
              byteCount = body.length) stopped := by
        refine fileCall_undisturbed (fun world value next hworld hanswer => ?_)
          fun world error next _ hanswer => ?_
        · obtain ⟨-, rfl⟩ := Prod.mk.inj hanswer
          obtain ⟨hcount, hrest⟩ := hworld
          exact ⟨hrest, (Option.some.inj hcount).trans (Nat.zero_add _)⟩
        · cases hanswer
      refine Ends.bind hflushed fun _ => Ends.given fun hcount => ?_
      subst hcount
      refine Ends.bind (Ends.lift (fun _ _ _ => id) fun error herror world _ => ?_) fun _ =>
        Ends.ret fun world hworld => ⟨rfl, hworld⟩
      exact nomatch hannounces.complete.symm.trans herror

end Serving

end MatchVet.Ingestion.Delivery
