import TeenyTiny.Proofs.Progress

/-!
# All pulls read one stream

Tokens can be pulled from a feed and from the cursor under it, in any order.
Both ways read the same stream: the results that the cursor alone would give,
each of them once (`pull_reads_stream`).  A feed that has run dry answers
nothing and reads nothing, and it runs dry only by its own pulls.

`Feed.pull_cases` says what one pull does, and `Feed.cursor_after` where any
number of them leave the cursor.
-/

namespace TeenyTiny

/-- The two ways of pulling a token: from the cursor under a feed, or from the
feed itself. -/
inductive Pull where
  | read
  | next
  deriving DecidableEq, Repr

/-- Whether a feed that hands out the result runs dry by it. -/
def endsFeed : Except LexicalError Token → Bool
  | .ok token => token.kind = .eof
  | .error _ => true

namespace Pull

/-- How a pull shows the result of a reading.  A feed does not show the end of
the source. -/
def shows : Pull → Except LexicalError Token →
    Option (Except LexicalError Token)
  | .read, outcome => some outcome
  | .next, outcome => if isEnd outcome then none else some outcome

/-- Whether a feed runs dry by the pull. -/
def exhausts : Pull → Except LexicalError Token → Bool
  | .read, _ => false
  | .next, outcome => endsFeed outcome

end Pull

namespace Feed

/-- The answer to a pull, and the feed behind it. -/
def pull (feed : Feed) :
    Pull → Option (Except LexicalError Token) × Feed
  | .read => (some feed.read.1, feed.read.2)
  | .next => feed.next?

def after (feed : Feed) : List Pull → Feed
  | [] => feed
  | pull :: rest => (feed.pull pull).2.after rest

def answers (feed : Feed) :
    List Pull → List (Option (Except LexicalError Token))
  | [] => []
  | pull :: rest => (feed.pull pull).1 :: (feed.pull pull).2.answers rest

/-- Whether the pull goes to a feed that has run dry. -/
def refuses (feed : Feed) (pull : Pull) : Bool :=
  feed.dry && pull == .next

/-- How many of the pulls are not refused. -/
def readings (feed : Feed) : List Pull → Nat
  | [] => 0
  | pull :: rest =>
      (if feed.refuses pull then 0 else 1) +
        (feed.pull pull).2.readings rest

/-! ## One pull -/

/-- A pull is refused, or it shows what the cursor reads next. -/
theorem pull_cases (feed : Feed) (pull : Pull) :
    feed.refuses pull = true ∧ feed.pull pull = (none, feed) ∨
      feed.refuses pull = false ∧
        feed.pull pull =
          (pull.shows feed.cursor.next.1,
            ⟨feed.cursor.next.2,
              feed.dry || pull.exhausts feed.cursor.next.1⟩) := by
  obtain ⟨cursor, dry⟩ := feed
  cases pull with
  | read =>
      refine Or.inr ⟨by simp [refuses], ?_⟩
      simp [Feed.pull, Feed.read, Pull.shows, Pull.exhausts]
  | next =>
      cases dry with
      | true =>
          exact Or.inl ⟨rfl, rfl⟩
      | false =>
          refine Or.inr ⟨rfl, ?_⟩
          rcases read : cursor.next with ⟨outcome, moved⟩
          cases outcome with
          | error error =>
              simp [Feed.pull, next?, read, Pull.shows, Pull.exhausts,
                isEnd, endsFeed]
          | ok token =>
              by_cases kind : token.kind = .eof
              · simp [Feed.pull, next?, read, Pull.shows, Pull.exhausts,
                  isEnd, endsFeed, kind]
              · simp [Feed.pull, next?, read, Pull.shows, Pull.exhausts,
                  isEnd, endsFeed, kind]

/-- A feed runs dry by a pull of its own that meets the end or an error. -/
theorem dry_pull_iff (feed : Feed) (pull : Pull) :
    (feed.pull pull).2.dry = true ↔
      feed.dry = true ∨
        pull = .next ∧ endsFeed feed.cursor.next.1 = true := by
  rcases feed.pull_cases pull with ⟨refused, answer⟩ | ⟨_, answer⟩
  · have isDry : feed.dry = true := by
      rw [refuses, Bool.and_eq_true] at refused
      exact refused.1
    simp [answer, isDry]
  · rw [answer]
    cases pull <;> simp [Pull.exhausts]

/-! ## Many pulls -/

/-- The cursor has been moved by the pulls that were not refused. -/
theorem cursor_after (feed : Feed) (pulls : List Pull) :
    (feed.after pulls).cursor =
      feed.cursor.forward (feed.readings pulls) := by
  induction pulls generalizing feed with
  | nil =>
      rfl
  | cons pull rest inductionHypothesis =>
      rw [after, readings, inductionHypothesis]
      rcases feed.pull_cases pull with ⟨refused, answer⟩ | ⟨open_, answer⟩
      · rw [answer, if_pos refused, Nat.zero_add]
      · rw [answer, open_, Cursor.forward_add]
        rfl

end Feed

/-! ## Collecting what a feed hands out -/

namespace Cursor

variable {cursor : Cursor} {tokens : List Token}

/-- A feed of well-formed lexemes hands out all tokens but the end. -/
theorem Yields.items_eq_dropLast
    (yields : cursor.Yields tokens none) :
    cursor.items = tokens.dropLast.map .ok := by
  generalize outcomeIs : none = outcome at yields
  induction yields with
  | stop _ =>
      cases outcomeIs
  | finish read kind =>
      exact items_of_eof read kind
  | more read inside yields inductionHypothesis =>
      have further := inductionHypothesis outcomeIs
      subst outcomeIs
      obtain ⟨body, last, rfl, _⟩ := yields.exists_eof
      rw [List.dropLast_concat] at further
      rw [items_of_token read inside, further, ← List.cons_append,
        List.dropLast_concat]
      rfl

end Cursor

namespace Feed

/-- The items of a feed are what it hands out next and what it hands out from
then on. -/
theorem items_cases (feed : Feed) :
    (feed.next?.1 = none ∧ feed.items = [] ∧ feed.next?.2.dry = true) ∨
      ∃ item, feed.next?.1 = some item ∧
        feed.items = item :: feed.next?.2.items := by
  obtain ⟨cursor, dry⟩ := feed
  cases dry with
  | true =>
      exact Or.inl ⟨rfl, rfl, rfl⟩
  | false =>
      rcases read : cursor.next with ⟨outcome, moved⟩
      have first : cursor.next.1 = outcome := by rw [read]
      have second : cursor.next.2 = moved := by rw [read]
      cases outcome with
      | error error =>
          have items := Cursor.items_of_error first
          exact Or.inr ⟨.error error, by simp [next?, read],
            by simp [Feed.items, next?, read, items]⟩
      | ok token =>
          by_cases kind : token.kind = .eof
          · have items := Cursor.items_of_eof first kind
            exact Or.inl ⟨by simp [next?, read, kind],
              by simp [Feed.items, items], by simp [next?, read, kind]⟩
          · have items := Cursor.items_of_token first kind
            rw [second] at items
            exact Or.inr ⟨.ok token, by simp [next?, read, kind],
              by simp [Feed.items, next?, read, kind, items]⟩

theorem answers_of_dry {feed : Feed}
    (isDry : feed.dry = true)
    (count : Nat) :
    feed.answers (List.replicate count .next) =
      List.replicate count none := by
  induction count with
  | zero =>
      rfl
  | succ count inductionHypothesis =>
      have answer : feed.pull .next = (none, feed) := by
        simp [Feed.pull, next?, isDry]
      rw [List.replicate_succ, List.replicate_succ, answers, answer,
        inductionHypothesis]

/-- Pulling from a feed gives its items one after the other, and nothing from
then on. -/
theorem answers_replicate (feed : Feed) (extra : Nat) :
    feed.answers (List.replicate (feed.items.length + extra) .next) =
      feed.items.map some ++ List.replicate extra none := by
  generalize collected : feed.items = items
  induction items generalizing feed with
  | nil =>
      rcases feed.items_cases with ⟨empty, _, isDry⟩ | ⟨_, _, handed⟩
      · cases extra with
        | zero =>
            rfl
        | succ extra =>
            have dry := answers_of_dry isDry extra
            simp only [List.length_nil, Nat.zero_add, List.replicate_succ,
              List.map_nil, List.nil_append, answers, Feed.pull, empty, dry]
      · rw [handed] at collected
        cases collected
  | cons item items inductionHypothesis =>
      rcases feed.items_cases with ⟨_, empty, _⟩ | ⟨first, answer, handed⟩
      · rw [empty] at collected
        cases collected
      · rw [handed] at collected
        injection collected with sameItem sameItems
        subst sameItem
        have further := inductionHypothesis feed.next?.2 sameItems
        rw [List.length_cons, Nat.add_right_comm, List.replicate_succ,
          answers, Feed.pull, answer, further]
        rfl

end Feed

/-! ## The stream of a source -/

/-- Whatever is pulled from the feed of a source, and in whatever order, comes
from the stream of results that its cursor alone would give. -/
structure ReadsStream (source : List Char) : Prop where
  /-- At the start the feed is not dry. -/
  fresh : (Feed.ofSource source).dry = false
  /-- A dry feed answers nothing and moves nothing. -/
  refused : ∀ earlier pull,
    ((Feed.ofSource source).after earlier).refuses pull = true →
      ((Feed.ofSource source).after earlier).pull pull =
        (none, (Feed.ofSource source).after earlier)
  /-- Any other pull shows the next result of the stream. -/
  read : ∀ earlier pull,
    ((Feed.ofSource source).after earlier).refuses pull = false →
      (((Feed.ofSource source).after earlier).pull pull).1 =
          pull.shows ((Cursor.ofSource source).outcome
            ((Feed.ofSource source).readings earlier)) ∧
        (((Feed.ofSource source).after earlier).pull pull).2.cursor =
          (Cursor.ofSource source).forward
            ((Feed.ofSource source).readings earlier + 1)
  /-- The feed runs dry exactly by its own pulls that meet the end or an
  error. -/
  dries : ∀ earlier pull,
    (((Feed.ofSource source).after earlier).pull pull).2.dry = true ↔
      ((Feed.ofSource source).after earlier).dry = true ∨
        pull = .next ∧
          endsFeed ((Cursor.ofSource source).outcome
            ((Feed.ofSource source).readings earlier)) = true
  /-- The items of the feed are what pulling from it alone gives. -/
  collected : ∀ extra,
    (Feed.ofSource source).answers
        (List.replicate
          ((Feed.ofSource source).items.length + extra) .next) =
      (Feed.ofSource source).items.map some ++ List.replicate extra none
  /-- These are all tokens but the end, or those before the first error and
  that error. -/
  whole : ∀ tokens, tokenize source = .ok tokens →
    (Feed.ofSource source).items = tokens.dropLast.map .ok ∧
      tokens.getLast? = some (.eof (byteLength source))
  broken : ∀ error, tokenize source = .error error →
    ∃ tokens, (Cursor.ofSource source).Yields tokens (some error) ∧
      (Feed.ofSource source).items = tokens.map .ok ++ [.error error]

/-- All pulls from a source read its one stream. -/
theorem pull_reads_stream (source : List Char) : ReadsStream source := by
  have placed : ∀ earlier,
      ((Feed.ofSource source).after earlier).cursor =
        (Cursor.ofSource source).forward
          ((Feed.ofSource source).readings earlier) :=
    (Feed.ofSource source).cursor_after
  refine ⟨rfl, ?refused, ?read, ?dries, ?collected, ?whole, ?broken⟩
  case refused =>
    intro earlier pull refused
    rcases ((Feed.ofSource source).after earlier).pull_cases pull with
      ⟨_, answer⟩ | ⟨read, _⟩
    · exact answer
    · rw [refused] at read
      cases read
  case read =>
    intro earlier pull accepted
    rcases ((Feed.ofSource source).after earlier).pull_cases pull with
      ⟨refused, _⟩ | ⟨_, answer⟩
    · rw [accepted] at refused
      cases refused
    · rw [answer, placed]
      exact ⟨rfl, rfl⟩
  case dries =>
    intro earlier pull
    rw [Feed.dry_pull_iff, placed]
    rfl
  case collected =>
    exact (Feed.ofSource source).answers_replicate
  case whole =>
    intro tokens tokenized
    have yields := yields_of_tokenize tokenized
    have row : Row source [] tokens := yields.row rfl rfl
    obtain ⟨body, rfl, _⟩ := row.exists_eof
    exact ⟨yields.items_eq_dropLast, List.getLast?_concat⟩
  case broken =>
    intro error failed
    obtain ⟨tokens, yields⟩ := yields_of_tokenize_error failed
    exact ⟨tokens, yields, yields.items_eq⟩

end TeenyTiny
