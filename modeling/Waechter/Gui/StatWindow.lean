import Mathlib.Algebra.Group.Nat.Defs
import Waechter.Daemon.HistoryRequests
import Waechter.Lib.Run
import Waechter.Lib.Text

/-!
# Pages of past connections

The buttons of the statistics window (`Gui/Windows/StatWindow.cpp`) ask for another page of a
hundred past connections. The first page is asked for with offset 0, and every later one with a
hundred times its number, so a page that is come back to is the one behind it; the last page is the
last hundred entries, and the number of pages is that of the full ones.

* `getElem?_page`: the entries that an offset shows.
* `always_paged_iff`: page and offset fit, and every entry can be reached, in exactly the runs that
  never go back, and go on only from a hundred entries.
-/

namespace Waechter

open Lib Lib.Text
open StatsManager (HistoryRequest HistoryResponse)

/-- `EHistoryState`. -/
inductive HistoryState
  | requestPending
  | dataReceived
  deriving DecidableEq

/-- `WStatWindow`, the part that shows past connections. -/
structure StatWindow where
  historyRequest : HistoryRequest
  historyResponse : HistoryResponse
  historyMaxPages : Nat := 1
  historyPage : Nat := 1
  historyState : HistoryState := .requestPending

namespace StatWindow

/-- The two buttons. -/
inductive Click
  | previous
  | next

/-- A click in `DrawHistoryData`, and the request it sends. Pages are 32 bits wide, offsets and
numbers of entries 64. -/
def click (w : StatWindow) : Click → StatWindow
  | .previous =>
    let historyPage := if w.historyPage > 1 then w.historyPage - 1 else 1
    { w with
      historyPage
      historyRequest := { w.historyRequest with offset := max 0 (historyPage * 100 % 2 ^ 32) }
      historyState := .requestPending }
  | .next =>
    let historyPage := min w.historyMaxPages ((w.historyPage + 1) % 2 ^ 32)
    { w with
      historyPage
      historyRequest :=
        { w.historyRequest with
          offset := min (historyPage * 100 % 2 ^ 32)
            (sizeSub w.historyResponse.numTotalEntries 100) }
      historyState := .requestPending }

/-- `SetHistoryResponse`. -/
def setHistoryResponse (w : StatWindow) (inResponse : HistoryResponse) : StatWindow :=
  { w with
    historyResponse := inResponse
    historyState := .dataReceived
    historyMaxPages := max (inResponse.numTotalEntries / 100 % 2 ^ 32) 1 }

inductive Op
  | click (c : Click)
  | response (inResponse : HistoryResponse)

def step (w : StatWindow) : Op → StatWindow
  | .click c => w.click c
  | .response inResponse => w.setHistoryResponse inResponse

/-- `WStatWindow`, with the request that opened it. -/
def opened (request : HistoryRequest) : StatWindow where
  historyRequest := { request with offset := 0 }
  historyResponse := { requestId := 0 }

/-! ## Pages -/

variable (w : StatWindow)

/-- The number of entries, as far as the window knows. -/
def total : Nat := w.historyResponse.numTotalEntries

/-- The request with this offset gets the entry. -/
def Shows (offset entry : Nat) : Prop := offset ≤ entry ∧ entry < offset + 100

/-- The page of an offset has the entries that it shows, in their places. -/
theorem getElem?_page {α : Type} (order : IterOrder) (rows : List α) {offset entry : Nat}
    (h : Shows offset entry) :
    (StatsManager.page order rows offset)[entry - offset]? = (order.order rows)[entry]? := by
  obtain ⟨hle, hlt⟩ := h
  rw [StatsManager.page, List.getElem?_take, if_pos (by omega), List.getElem?_drop]
  congr 1
  omega

/-- What paging promises: the offset is that of the displayed page and below the number of entries,
the page is one of those there are, and clicks reach every entry. -/
structure Paged : Prop where
  offset_eq : w.historyRequest.offset = 100 * (w.historyPage - 1)
  offset_lt : w.historyRequest.offset < w.total ∨ w.total = 0 ∧ w.historyRequest.offset = 0
  page_pos : 1 ≤ w.historyPage
  page_le : w.historyPage ≤ max 1 ((w.total + 99) / 100)
  reaches : ∀ entry < w.total, ∃ clicks : List Click,
    Shows (run click w clicks).historyRequest.offset entry

/-- No click goes back, one goes on only when there are exactly a hundred entries, and no number of
entries needs an offset above the range of a page. -/
def StaysOnFirst : Op → Prop
  | .click .previous => False
  | .click .next => w.total = 100
  | .response inResponse => inResponse.numTotalEntries ≤ 4294967300

/-! ## Clicks -/

variable {w}

@[simp] theorem total_click (w : StatWindow) (c : Click) : (w.click c).total = w.total := by
  cases c <;> rfl

@[simp] theorem historyMaxPages_click (w : StatWindow) (c : Click) :
    (w.click c).historyMaxPages = w.historyMaxPages := by
  cases c <;> rfl

theorem total_run (clicks : List Click) :
    (run click w clicks).total = w.total ∧
      (run click w clicks).historyMaxPages = w.historyMaxPages := by
  refine run_of_step (I := fun v : StatWindow => v.total = w.total ∧ v.historyMaxPages = w.historyMaxPages)
    (fun v c hv => ?_) clicks ⟨rfl, rfl⟩
  rw [total_click, historyMaxPages_click]
  exact hv

/-- Going on from the first page. -/
theorem historyPage_run_next (hpage : w.historyPage = 1) : ∀ k : Nat,
    k + 1 ≤ w.historyMaxPages → k + 1 < 2 ^ 32 →
      (run click w (List.replicate k .next)).historyPage = k + 1
  | 0, _, _ => hpage
  | k + 1, hmax, hlt => by
    have hprev := historyPage_run_next hpage k (by omega) (by omega)
    rw [List.replicate_succ', run_concat]
    show min (run click w _).historyMaxPages (((run click w _).historyPage + 1) % 2 ^ 32) = _
    rw [(total_run _).2, hprev, Nat.mod_eq_of_lt hlt]
    omega

/-- The offset of a page that is gone on to. -/
theorem offset_run_next (hpage : w.historyPage = 1) {k : Nat} (hmax : k + 2 ≤ w.historyMaxPages)
    (hlt : (k + 2) * 100 < 2 ^ 32) :
    (run click w (List.replicate (k + 1) .next)).historyRequest.offset =
      min ((k + 2) * 100) (sizeSub w.total 100) := by
  have hpage' := historyPage_run_next hpage (k + 1) hmax (by omega)
  rw [List.replicate_succ', run_concat] at hpage' ⊢
  change min ((Nat.mul (StatWindow.historyPage (click _ .next)) 100) % 2 ^ 32) (sizeSub (total _) 100) = _
  rw [hpage', (total_run _).1]
  show min ((k + 2) * 100 % 2 ^ 32) _ = _
  rw [Nat.mod_eq_of_lt hlt]

/-- The window still shows what it has asked for first. -/
structure OnFirst (w : StatWindow) : Prop where
  page : w.historyPage = 1
  offset : w.historyRequest.offset = 0
  maxPages : w.historyMaxPages = max (w.total / 100 % 2 ^ 32) 1

/-- From the first page every entry is reached, by going on as often as its hundred says. The second
hundred is on no page: going back from the first one shows it. -/
theorem OnFirst.reaches (h : w.OnFirst) (htotal : w.total ≤ 4294967300) {entry : Nat}
    (hentry : entry < w.total) :
    ∃ clicks : List Click, Shows (run click w clicks).historyRequest.offset entry := by
  have hmax : w.historyMaxPages = max (w.total / 100) 1 := by
    rw [h.maxPages, Nat.mod_eq_of_lt (by omega)]
  have hdiv : 100 * (entry / 100) ≤ entry ∧ entry < 100 * (entry / 100) + 100 := by omega
  cases hk : entry / 100 with
  | zero => exact ⟨[], by unfold Shows; rw [run_nil, h.offset]; omega⟩
  | succ k =>
    cases k with
    | zero =>
      refine ⟨[.previous], ?_⟩
      have hoffset : (w.click .previous).historyRequest.offset = 100 := by
        simp [click, h.page]
      rw [run_cons, run_nil, hoffset, Shows]
      omega
    | succ k =>
      have hle : k + 2 ≤ w.historyMaxPages := by omega
      refine ⟨List.replicate (k + 1) .next, ?_⟩
      rw [offset_run_next h.page hle (by omega), sizeSub_of_le (by omega), Shows]
      omega

/-- The offsets that clicks lead to. -/
theorem offset_run_le (hmax : 1 ≤ w.historyMaxPages) (hpage : w.historyPage ≤ w.historyMaxPages)
    (hoffset : w.historyRequest.offset = 0) (clicks : List Click) :
    ∃ p ≤ w.historyMaxPages, (run click w clicks).historyRequest.offset ≤ p * 100 % 2 ^ 32 := by
  have hrun := @run_of_step _ _ click
    (fun v => v.historyMaxPages = w.historyMaxPages ∧ v.historyPage ≤ w.historyMaxPages ∧
      ∃ p ≤ w.historyMaxPages, v.historyRequest.offset ≤ p * 100 % 2 ^ 32)
    (fun v c hv => ?_) clicks w ⟨rfl, hpage, 0, Nat.zero_le _, Nat.le_of_eq hoffset⟩
  · exact hrun.2.2
  · obtain ⟨hsame, hle, -⟩ := hv
    refine ⟨(historyMaxPages_click v c).trans hsame, ?_⟩
    cases c with
    | previous =>
      have hpage' : (v.click .previous).historyPage ≤ w.historyMaxPages := by
        show (if v.historyPage > 1 then v.historyPage - 1 else 1) ≤ _
        split <;> omega
      exact ⟨hpage', _, hpage', Nat.le_of_eq (Nat.zero_max _)⟩
    | next =>
      have hpage' : (v.click .next).historyPage ≤ w.historyMaxPages :=
        hsame ▸ Nat.min_le_left _ _
      exact ⟨hpage', _, hpage', Nat.min_le_left _ _⟩

/-- The last entry of too many is on no page. -/
theorem OnFirst.not_reaches (h : w.OnFirst) (htotal : 4294967300 < w.total) (clicks : List Click) :
    ¬ Shows (run click w clicks).historyRequest.offset (w.total - 1) := by
  have hmax : 1 ≤ w.historyMaxPages := h.maxPages ▸ Nat.le_max_right _ _
  obtain ⟨p, hp, hoffset⟩ := offset_run_le hmax (h.page ▸ hmax) h.offset clicks
  have hpages := h.maxPages
  unfold Shows
  by_cases hlarge : 4294967396 ≤ w.total
  · omega
  · have hdiv : w.total / 100 = 42949673 := by omega
    rw [hdiv] at hpages
    -- a hundred times the last page is past the range of a page
    rcases Nat.lt_or_eq_of_le (Nat.le_trans hp (Nat.le_of_eq hpages)) with hlt | rfl
    · rw [Nat.mod_eq_of_lt (by omega)] at hoffset
      omega
    · omega

/-- Two hundred entries, on the second page: no click leads back to the first one. -/
theorem not_shows_zero (hmax : w.historyMaxPages = 2) (htotal : w.total = 200)
    (hpage : w.historyPage = 2) (hoffset : w.historyRequest.offset = 100) (clicks : List Click) :
    ¬ Shows (run click w clicks).historyRequest.offset 0 := by
  have hrun := @run_of_step _ _ click
    (fun v => v.historyMaxPages = 2 ∧ v.total = 200 ∧
      (v.historyPage = 1 ∨ v.historyPage = 2) ∧ v.historyRequest.offset = 100)
    (fun v c hv => ?_) clicks w ⟨hmax, htotal, .inr hpage, hoffset⟩
  · unfold Shows
    omega
  · obtain ⟨hmax, htotal, hpage, -⟩ := hv
    refine ⟨(historyMaxPages_click v c).trans hmax, (total_click v c).trans htotal, ?_⟩
    unfold total at htotal
    cases c with
    | previous => rcases hpage with hpage | hpage <;> simp [click, hpage]
    | next => rcases hpage with hpage | hpage <;> simp [click, hpage, hmax, htotal]

/-! ## Runs -/

/-- The states of the runs in which the first page is kept. -/
def Kept (w : StatWindow) : Prop := w.OnFirst ∧ w.total ≤ 4294967300

theorem Kept.paged (h : w.Kept) : w.Paged where
  offset_eq := by rw [h.1.offset, h.1.page]
  offset_lt := by
    rw [h.1.offset]
    omega
  page_pos := Nat.le_of_eq h.1.page.symm
  page_le := h.1.page ▸ Nat.le_max_left _ _
  reaches _ := h.1.reaches h.2

theorem Kept.step (h : w.Kept) (o : Op) (ho : w.StaysOnFirst o) : (w.step o).Kept := by
  obtain ⟨⟨hpage, hoffset, hmax⟩, htotal⟩ := h
  match o, ho with
  | .click .next, ho =>
    change w.total = 100 at ho
    have hmax' : w.historyMaxPages = 1 := by rw [hmax, ho]; decide
    unfold total at ho
    refine ⟨⟨?_, ?_, hmax⟩, htotal⟩ <;> simp [StatWindow.step, click, hpage, hmax', ho]
  | .response inResponse, ho => exact ⟨⟨hpage, hoffset, rfl⟩, ho⟩

/-- A step that does not keep the first page breaks what paging promises. -/
theorem Kept.staysOnFirst (h : w.Kept) (o : Op) (ho : (w.step o).Paged) : w.StaysOnFirst o := by
  obtain ⟨⟨hpage, hoffset, hmax⟩, htotal⟩ := h
  match o with
  | .click .previous =>
    have heq := ho.offset_eq
    simp [StatWindow.step, click, hpage] at heq
  | .click .next =>
    have hmax' : w.historyMaxPages = max (w.total / 100) 1 := by
      rw [hmax, Nat.mod_eq_of_lt (by omega)]
    have hpage' : (w.click .next).historyPage = min w.historyMaxPages 2 := by
      simp [click, hpage]
    have hoffset' : (w.click .next).historyRequest.offset =
        min ((w.click .next).historyPage * 100 % 2 ^ 32) (sizeSub w.total 100) := rfl
    have heq : (w.click .next).historyRequest.offset = 100 * ((w.click .next).historyPage - 1) :=
      ho.offset_eq
    rw [hoffset', hpage', hmax', sizeSub] at heq
    by_contra hne
    change ¬ w.total = 100 at hne
    -- only the second page of two hundred entries has the right offset, and the first is lost
    have htwo : w.total = 200 := by
      split at heq <;> omega
    have hlast : w.historyMaxPages = 2 := by omega
    have hsecond : (w.click .next).historyPage = 2 := by omega
    obtain ⟨clicks, hclicks⟩ := ho.reaches 0 (by
      change 0 < w.total
      omega)
    refine not_shows_zero ((historyMaxPages_click w .next).trans hlast)
      ((total_click w .next).trans htwo) hsecond ?_ clicks hclicks
    rw [hoffset', hsecond, htwo]
    decide
  | .response inResponse =>
    refine Nat.le_of_not_lt fun hlt => ?_
    have hfirst : (w.step (.response inResponse)).OnFirst := ⟨hpage, hoffset, rfl⟩
    obtain ⟨clicks, hclicks⟩ := ho.reaches (inResponse.numTotalEntries - 1) (by
      show _ < inResponse.numTotalEntries
      omega)
    exact hfirst.not_reaches hlt clicks hclicks

theorem kept_opened (request : HistoryRequest) : (opened request).Kept where
  left := {
    page := rfl
    offset := rfl
    maxPages := by
      show 1 = max (0 / 100 % 2 ^ 32) 1
      decide }
  right := Nat.zero_le _

/-- **When paging keeps its promise**: in exactly the runs in which no click goes back, one goes on
only from exactly a hundred entries, and no response counts more than 4294967300 of them. -/
theorem always_paged_iff (request : HistoryRequest) (ops : List Op) :
    Always step Paged (opened request) ops ↔ AllSteps step StaysOnFirst (opened request) ops :=
  always_iff_allSteps (I := Kept) (fun _ h => h.paged) (fun _ o h ho => h.step o ho)
    (fun _ o h ho => h.staysOnFirst o ho) ops (kept_opened request)

/-- Going back from the first page asks for the second hundred, and going on from fifty entries for
entries that are not there. -/
theorem pages_missed :
    let request : HistoryRequest := { requestId := 0 }
    let back := [Op.response { requestId := 0, numTotalEntries := 250 }, .click .previous]
    let on := [Op.response { requestId := 0, numTotalEntries := 50 }, .click .next]
    (run step (opened request) back).historyPage = 1 ∧
      (run step (opened request) back).historyRequest.offset = 100 ∧
      ¬ Always step Paged (opened request) back ∧
      (run step (opened request) on).historyRequest.offset = 100 ∧
      ¬ Always step Paged (opened request) on := by
  refine ⟨rfl, rfl, fun h => ?_, rfl, fun h => ?_⟩
  · exact absurd h.last.offset_eq (by decide)
  · exact absurd h.last.offset_eq (by decide)

end StatWindow

end Waechter
