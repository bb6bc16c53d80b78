import Waechter.Lib.Decimal
import Waechter.Lib.Text

/-!
# The address of a web socket

`WWebSocketSource::ListenThreadFunction` (`Gui/Communication/WebSocketSource.cpp`) cuts the URL of
the daemon at the first colon and at the first slash of what follows the scheme, wherever they are:
a colon of the path is taken for that of a port, and so is one of an IPv6 address.

* `connects_iff`: it connects where the URL says exactly when the host is no IPv6 address, and there
  is a port or the path has no colon.
-/

namespace Waechter

namespace WebSocketSource

open Lib.Text Lib.Decimal
open Lib.Hex (StoulError)

abbrev Text := List Char

/-! ## The client -/

/-- What is taken from a URL. -/
structure Target where
  host : Text
  port : Int
  path : Text
  deriving DecidableEq

/-- `std::stoi(UrlRest.substr(pos, n))`. -/
def stoiAt (urlRest : Text) (pos n : Nat) : Except StoulError Int :=
  match substr urlRest pos n with
  | some text => stoi text
  | none => .error .outOfRange

/-- The part of the URL behind the scheme. -/
def parseRest (port : Int) (urlRest : Text) : Except StoulError Target :=
  match find ':' urlRest, find '/' urlRest with
  | some colonPos, some slashPos => do
    let port ← stoiAt urlRest (colonPos + 1) (sizeSub (sizeSub slashPos colonPos) 1)
    return { host := urlRest.take colonPos, port, path := urlRest.drop slashPos }
  | some colonPos, none => do
    let port ← stoiAt urlRest (colonPos + 1) urlRest.length
    return { host := urlRest.take colonPos, port, path := "/".toList }
  | none, some slashPos =>
    .ok { host := urlRest.take slashPos, port, path := urlRest.drop slashPos }
  | none, none => .ok { host := urlRest, port, path := "/".toList }

def parseUrl (url : Text) : Except StoulError Target :=
  if "ws://".toList.isPrefixOf url then parseRest 80 (url.drop 5)
  else if "wss://".toList.isPrefixOf url then parseRest 443 (url.drop 6)
  else .ok { host := "localhost".toList, port := 9001, path := "/".toList }

/-- The token behind the path. -/
def appendToken (path authToken : Text) : Text :=
  if authToken ≠ [] then
    if (find '?' path).isSome then path ++ "&token=".toList ++ authToken
    else path ++ "?token=".toList ++ authToken
  else path

/-- The members of `WSettings` that are read. -/
structure Settings where
  bAllowSelfSignedCertificates : Bool
  bSkipCertificateHostnameCheck : Bool

/-- The flags of `ssl_connection`. -/
structure SslConnection where
  useSsl : Bool := false
  allowSelfsigned : Bool := false
  skipServerCertHostnameCheck : Bool := false
  deriving DecidableEq

/-- `lws_client_connect_info`. -/
structure ConnectInfo where
  address : Text
  port : Int
  path : Text
  host : Text
  origin : Text
  sslConnection : SslConnection
  deriving DecidableEq

/-- `ListenThreadFunction` up to the connection: `none` when there is no context. -/
def listenThreadFunction (context : Bool) (settings : Settings) (url authToken : Text) :
    Except StoulError (Option ConnectInfo) := do
  let target ← parseUrl url
  let bIsSecure := "wss://".toList.isPrefixOf url
  let path := appendToken target.path authToken
  if context then
    return some {
      address := target.host
      port := target.port
      path := path
      host := target.host
      origin := target.host
      sslConnection :=
        if bIsSecure then
          { useSsl := true
            allowSelfsigned := settings.bAllowSelfSignedCertificates
            skipServerCertHostnameCheck := settings.bSkipCertificateHostnameCheck }
        else {} }
  else return none

/-! ## URLs -/

/-- A host name or an IPv4 address. -/
structure HostName where
  text : Text
  nonempty : text ≠ []
  plain : ':' ∉ text ∧ '/' ∉ text ∧ '?' ∉ text

/-- An IPv6 address, without its brackets. -/
structure IPv6Address where
  text : Text
  colon : ':' ∈ text
  plain : '[' ∉ text ∧ ']' ∉ text ∧ '/' ∉ text

inductive Host
  | name (n : HostName)
  | bracketed (a : IPv6Address)

/-- The decimal digits of a port. -/
structure Port where
  digits : Text
  nonempty : digits ≠ []
  isDigit : ∀ c ∈ digits, c.isDigit
  lt : value digits < 65536

/-- A path with its query. -/
structure Path where
  text : Text
  slash : ∀ c ∈ text.head?, c = '/'

/-- `ws://authority[path]` or `wss://authority[path]`. -/
structure WsUrl where
  secure : Bool
  host : Host
  port : Option Port
  path : Path

def Host.text : Host → Text
  | .name n => n.text
  | .bracketed a => '[' :: a.text ++ [']']

/-- The port with its colon. -/
def portText : Option Port → Text
  | some p => ':' :: p.digits
  | none => []

namespace WsUrl

variable (url : WsUrl)

/-- What follows the scheme. -/
def rest : Text := url.host.text ++ portText url.port ++ url.path.text

def text : Text := (if url.secure then "wss://" else "ws://").toList ++ url.rest

/-- The port of the scheme. -/
def defaultPort : Nat := if url.secure then 443 else 80

def portNumber : Nat := (url.port.map fun p => value p.digits).getD url.defaultPort

/-- The path with one more parameter. Without a token there is none to add. -/
def pathWithToken (authToken : Text) : Text :=
  let path := if url.path.text = [] then "/".toList else url.path.text
  if authToken = [] then path
  else path ++ (if '?' ∈ path then "&" else "?").toList ++ "token=".toList ++ authToken

end WsUrl

/-- The address of a host. An IPv6 address may keep its brackets or lose them. -/
def Host.Names (address : Text) : Host → Prop
  | .name n => address = n.text
  | .bracketed a => address = a.text ∨ address = '[' :: a.text ++ [']']

/-- The connection that a URL asks for. -/
structure ConnectsTo (url : WsUrl) (authToken : Text) (info : ConnectInfo) : Prop where
  address : url.host.Names info.address
  port : info.port = url.portNumber
  path : info.path = url.pathWithToken authToken

/-- The connection is made, and nothing is thrown. -/
def Connects (settings : Settings) (url : WsUrl) (authToken : Text) : Prop :=
  ∃ info : ConnectInfo,
    listenThreadFunction true settings url.text authToken = .ok (some info) ∧
      ConnectsTo url authToken info

/-! ## The first colon and the first slash -/

theorem parseRest_of_colon {port : Int} {urlRest : Text} {colonPos : Nat} {target : Target}
    (hcolon : find ':' urlRest = some colonPos) (h : parseRest port urlRest = .ok target) :
    target.host = urlRest.take colonPos := by
  unfold parseRest at h
  rw [hcolon] at h
  split at h
  · rename_i hpos _
    obtain rfl := Option.some.inj hpos
    cases hport : stoiAt urlRest (colonPos + 1) _ with
    | error e => rw [hport] at h; cases h
    | ok n => rw [hport] at h; cases h; rfl
  · rename_i hpos _
    obtain rfl := Option.some.inj hpos
    cases hport : stoiAt urlRest (colonPos + 1) _ with
    | error e => rw [hport] at h; cases h
    | ok n => rw [hport] at h; cases h; rfl
  · rename_i hpos _
    cases hpos
  · rename_i hpos _
    cases hpos

/-- A path is empty, or a slash and what follows. -/
theorem Path.eq_nil_or_cons (p : Path) : p.text = [] ∨ ∃ after, p.text = '/' :: after := by
  cases h : p.text with
  | nil => exact .inl rfl
  | cons c after =>
    obtain rfl := p.slash c (by rw [h]; rfl)
    exact .inr ⟨after, rfl⟩

/-- The path that is asked for, as the code writes it. -/
def Path.orSlash (p : Path) : Text := if p.text = [] then "/".toList else p.text

/-- Without a colon the host ends at the slash. -/
theorem parseRest_name {port : Int} {n : HostName} {p : Path} (hp : ':' ∉ p.text) :
    parseRest port (n.text ++ p.text) = .ok { host := n.text, port, path := p.orSlash } := by
  have hcolon : find ':' (n.text ++ p.text) = none := by
    rw [find_eq_none, List.mem_append]
    exact not_or_intro n.plain.1 hp
  unfold parseRest
  rw [hcolon]
  rcases p.eq_nil_or_cons with hempty | ⟨after, hslash⟩
  · rw [hempty, List.append_nil, find_eq_none.mpr n.plain.2.1, Path.orSlash, if_pos hempty]
  · rw [hslash, find_append n.plain.2.1]
    simp [Path.orSlash, hslash]

theorem stoiAt_of_le {urlRest : Text} {pos : Nat} (n : Nat) (h : pos ≤ urlRest.length) :
    stoiAt urlRest pos n = stoi ((urlRest.drop pos).take n) := by
  rw [stoiAt, substr, if_pos h]

/-- The digits of a port are read back. -/
theorem stoi_port (q : Port) : stoi q.digits = .ok (value q.digits) :=
  stoi_digits q.nonempty q.isDigit (Nat.lt_trans q.lt (by decide))

theorem Port.plain (q : Port) : '/' ∉ q.digits := fun h =>
  absurd (q.isDigit _ h) (by decide)

/-- The colon of a port. -/
theorem parseRest_port {port : Int} {n : HostName} {q : Port} {p : Path} :
    parseRest port (n.text ++ ':' :: q.digits ++ p.text) =
      .ok { host := n.text, port := value q.digits, path := p.orSlash } := by
  have hcolon : find ':' (n.text ++ ':' :: q.digits ++ p.text) = some n.text.length := by
    rw [List.append_assoc, List.cons_append, find_append n.plain.1]
  have hdrop : (n.text ++ ':' :: q.digits ++ p.text).drop (n.text.length + 1) =
      q.digits ++ p.text := by
    rw [List.append_assoc, List.cons_append, ← List.drop_drop, List.drop_left, List.drop_one,
      List.tail_cons]
  have hle : n.text.length + 1 ≤ (n.text ++ ':' :: q.digits ++ p.text).length := by
    simp
  have hfront : '/' ∉ n.text ++ ':' :: q.digits := by
    rw [List.mem_append, List.mem_cons]
    exact not_or_intro n.plain.2.1 (not_or_intro (by decide) q.plain)
  have htake : (n.text ++ ':' :: q.digits ++ p.text).take n.text.length = n.text := by
    rw [List.append_assoc, List.take_left]
  unfold parseRest
  rw [hcolon]
  rcases p.eq_nil_or_cons with hempty | ⟨after, hslash⟩
  · have hnone : find '/' (n.text ++ ':' :: q.digits ++ p.text) = none := by
      rw [hempty, List.append_nil]
      exact find_eq_none.mpr hfront
    have hport : stoiAt (n.text ++ ':' :: q.digits ++ p.text) (n.text.length + 1)
        (n.text ++ ':' :: q.digits ++ p.text).length = .ok (value q.digits) := by
      rw [stoiAt_of_le _ hle, hdrop, List.take_of_length_le (by simp; omega), hempty,
        List.append_nil]
      exact stoi_port q
    rw [hnone]
    simp only [hport, htake, bind, Except.bind, Path.orSlash, if_pos hempty]
    rfl
  · have hsome : find '/' (n.text ++ ':' :: q.digits ++ p.text) =
        some (n.text ++ ':' :: q.digits).length := by
      rw [hslash]
      exact find_append hfront after
    have hlength : sizeSub (sizeSub (n.text ++ ':' :: q.digits).length n.text.length) 1 =
        q.digits.length := by
      have heq : (n.text ++ ':' :: q.digits).length = n.text.length + (q.digits.length + 1) := by
        simp
      rw [heq, sizeSub_of_le (Nat.le_add_right _ _), sizeSub_of_le (by omega)]
      omega
    have hport : stoiAt (n.text ++ ':' :: q.digits ++ p.text) (n.text.length + 1)
        q.digits.length = .ok (value q.digits) := by
      rw [stoiAt_of_le _ hle, hdrop, List.take_left]
      exact stoi_port q
    have hpath : (n.text ++ ':' :: q.digits ++ p.text).drop (n.text ++ ':' :: q.digits).length =
        p.orSlash := by
      rw [List.drop_left, Path.orSlash, if_neg (by rw [hslash]; exact List.cons_ne_nil _ _)]
    rw [hsome]
    simp only [hlength, hport, htake, hpath, bind, Except.bind]
    rfl

/-! ## The connection -/

theorem parseUrl_text (url : WsUrl) : parseUrl url.text = parseRest url.defaultPort url.rest := by
  cases h : url.secure <;> simp [parseUrl, WsUrl.text, WsUrl.defaultPort, h]

/-- The path with the token, as the code writes it. -/
theorem appendToken_eq (url : WsUrl) (authToken : Text) :
    appendToken url.path.orSlash authToken = url.pathWithToken authToken := by
  have hfind : (find '?' url.path.orSlash).isSome = true ↔ '?' ∈ url.path.orSlash := by
    rw [Option.isSome_iff_ne_none, ne_eq, find_eq_none, not_not]
  unfold appendToken WsUrl.pathWithToken
  dsimp only
  change _ = if authToken = [] then url.path.orSlash
    else url.path.orSlash ++ (if '?' ∈ url.path.orSlash then "&" else "?").toList ++
      "token=".toList ++ authToken
  by_cases htoken : authToken = []
  · rw [if_neg (not_not_intro htoken), if_pos htoken]
  · rw [if_pos htoken, if_neg htoken]
    by_cases hquery : '?' ∈ url.path.orSlash
    · rw [if_pos (hfind.mpr hquery), if_pos hquery, List.append_assoc _ "&".toList]
      rfl
    · rw [if_neg (mt hfind.mp hquery), if_neg hquery, List.append_assoc _ "?".toList]
      rfl

/-- A connection is made to what is taken from the URL. -/
theorem connects_iff_target {settings : Settings} {url : WsUrl} {authToken : Text} :
    Connects settings url authToken ↔ ∃ target : Target,
      parseRest url.defaultPort url.rest = .ok target ∧ url.host.Names target.host ∧
        target.port = url.portNumber ∧
        appendToken target.path authToken = url.pathWithToken authToken := by
  unfold Connects listenThreadFunction
  rw [parseUrl_text]
  cases hparse : parseRest url.defaultPort url.rest with
  | error e =>
    constructor
    · rintro ⟨_, h, -⟩
      cases h
    · rintro ⟨_, h, -⟩
      cases h
  | ok target =>
    constructor
    · rintro ⟨_, h, hright⟩
      cases h
      exact ⟨target, rfl, hright.address, hright.port, hright.path⟩
    · rintro ⟨_, h, haddress, hport, hpath⟩
      cases h
      exact ⟨_, rfl, haddress, hport, hpath⟩

/-- A host that is cut at a colon is not the one of the URL when that has the colon in it, or has
no slash. -/
theorem not_connects_of_colon {settings : Settings} {url : WsUrl} {authToken : Text}
    {colonPos : Nat} (hcolon : find ':' url.rest = some colonPos)
    (hnames : ¬ url.host.Names (url.rest.take colonPos)) : ¬ Connects settings url authToken := by
  rw [connects_iff_target]
  rintro ⟨target, hparse, haddress, -⟩
  rw [parseRest_of_colon hcolon hparse] at haddress
  exact hnames haddress

/-- **Where the web socket connects**: to the host, the port and the path of the URL exactly when
the host is not a bracketed address, and a port is given or the path has no colon. -/
theorem connects_iff (settings : Settings) (url : WsUrl) (authToken : Text) :
    Connects settings url authToken ↔
      (∀ a, url.host ≠ .bracketed a) ∧ (url.port = none → ':' ∉ url.path.text) := by
  obtain ⟨secure, host, port, path⟩ := url
  cases host with
  | bracketed a =>
    refine iff_of_false ?_ fun h => h.1 a rfl
    have hmem : ':' ∈ WsUrl.rest ⟨secure, .bracketed a, port, path⟩ := by
      simp [WsUrl.rest, Host.text, a.colon]
    obtain ⟨colonPos, hcolon⟩ := exists_find_of_mem hmem
    refine not_connects_of_colon hcolon fun hnames => not_mem_take_find hcolon ?_
    rcases hnames with hnames | hnames
    · rw [hnames]
      exact a.colon
    · rw [hnames]
      simp [a.colon]
  | name n =>
    have hhost : ∀ a, Host.name n ≠ .bracketed a := fun _ => Host.noConfusion
    cases port with
    | some q =>
      refine iff_of_true ?_ ⟨hhost, fun h => nomatch h⟩
      exact connects_iff_target.mpr ⟨_, parseRest_port, rfl, rfl, appendToken_eq _ _⟩
    | none =>
      by_cases hpath : ':' ∈ path.text
      · refine iff_of_false ?_ fun h => h.2 rfl hpath
        have hrest : WsUrl.rest ⟨secure, .name n, none, path⟩ = n.text ++ path.text := by
          simp [WsUrl.rest, Host.text, portText]
        have hmem : ':' ∈ WsUrl.rest ⟨secure, .name n, none, path⟩ :=
          hrest ▸ List.mem_append_right _ hpath
        obtain ⟨colonPos, hcolon⟩ := exists_find_of_mem hmem
        refine not_connects_of_colon hcolon fun hnames => ?_
        -- what follows the host is the slash of the path, not a colon
        obtain ⟨after, heq, -⟩ := exists_of_find_eq_some hcolon
        rw [show List.take colonPos _ = n.text from hnames, hrest] at heq
        rcases path.eq_nil_or_cons with hempty | ⟨after', hslash⟩
        · rw [hempty] at hpath
          exact List.not_mem_nil hpath
        · rw [hslash] at heq
          exact absurd (List.cons.inj (List.append_cancel_left heq)).1 (by decide)
      · refine iff_of_true ?_ ⟨hhost, fun _ => hpath⟩
        have hrest : WsUrl.rest ⟨secure, .name n, none, path⟩ = n.text ++ path.text := by
          simp [WsUrl.rest, Host.text, portText]
        refine connects_iff_target.mpr
          ⟨⟨n.text, _, path.orSlash⟩, ?_, rfl, rfl, appendToken_eq ⟨_, _, _, _⟩ _⟩
        rw [hrest]
        exact parseRest_name hpath

/-- `ws://localhost/log:1`. -/
def colonInPath : WsUrl where
  secure := false
  host := .name ⟨"localhost".toList, by decide, by decide⟩
  port := none
  path := ⟨"/log:1".toList, fun _ hc => (Option.some.inj hc).symm⟩

/-- `wss://[::1]:9876/`. -/
def loopback6 : WsUrl where
  secure := true
  host := .bracketed ⟨"::1".toList, by decide, by decide⟩
  port := some ⟨"9876".toList, by decide, List.all_eq_true.mp rfl, by decide⟩
  path := ⟨"/".toList, fun _ hc => (Option.some.inj hc).symm⟩

/-- A colon of the path is taken for that of a port, and so is the first one of an address. -/
theorem connects_elsewhere :
    parseUrl colonInPath.text =
        .ok { host := "localhost/log".toList, port := 1, path := "/log:1".toList } ∧
      ¬ Connects ⟨false, false⟩ colonInPath [] ∧
      parseUrl loopback6.text = .error .invalidArgument ∧ ¬ Connects ⟨false, false⟩ loopback6 [] := by
  refine ⟨by decide, ?_, by decide, ?_⟩
  · refine not_connects_of_colon (show _ = some 13 by decide) fun hnames => ?_
    exact absurd (show "localhost/log".toList = "localhost".toList from hnames) (by decide)
  · refine not_connects_of_colon (show _ = some 1 by decide) fun hnames => ?_
    rcases hnames with hnames | hnames
    · exact absurd hnames (by decide)
    · exact absurd hnames (by decide)

end WebSocketSource

end Waechter
