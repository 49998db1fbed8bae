import TokenAuth.CommandLine.Workspace
import TokenAuth.Proofs.AddressText
import TokenAuth.Proofs.FrontOptions

/-!
Where the service listens. The address and the port of a command line are joined with a colon and read as
one. An IPv4 address holds no colon, so both are read as they are given. An IPv6 address holds colons, so
the joined text is no address with a port: such an address is accepted between brackets only.
-/
namespace TokenAuth

namespace Text

/-- Digits of a number, with any number of zeros in front. -/
def IsDecimal (ds : List Char) (n : Nat) : Prop :=
  ds ≠ [] ∧ (∀ c ∈ ds, isDigit c = true) ∧ numberOf ds = n

theorem isDecimal_decimal (n : Nat) : IsDecimal (decimal n) n :=
  ⟨decimal_ne_nil n, fun _ => isDigit_of_mem_decimal, numberOf_decimal n⟩

theorem IsDecimal.head?_ne {ds : List Char} {n : Nat} {c : Char} (h : IsDecimal ds n)
    (hc : isDigit c = false) : ds.head? ≠ some c := by
  intro hhead
  have hdigit := h.2.1 c (List.mem_of_mem_head? hhead)
  rw [hc] at hdigit
  simp at hdigit

end Text

namespace SocketAddress

open Text IpAddress

variable {cs ds : List Char} {port : UInt16} {x : Ipv4} {y : Ipv6}

theorem readPort_of_decimal (h : IsDecimal ds port.toNat) : readPort (':' :: ds) = some (port, []) := by
  obtain ⟨hne, hdigits, hvalue⟩ := h
  have hall : ds.takeWhile isDigit = ds := by
    simpa using takeWhile_append_of_head (b := []) hdigits (by simp)
  have hnumber : readNumber 65535 ds = some (port.toNat, []) := by
    have hfits : ¬ (ds = [] ∨ 65535 < numberOf ds) := by
      have := port.toNat_lt
      rintro (hnil | hlarge)
      · exact hne hnil
      · omega
    unfold readNumber
    dsimp only
    rw [hall, if_neg hfits, hvalue, List.drop_length]
  simp [readPort, readChar, hnumber]

theorem readNumber_stopsAt {c : Char} (hc : isDigit c = false) (most : Nat) :
    StopsAt (readNumber most) c := by
  intro cs r
  unfold readNumber
  dsimp only
  rw [takeWhile_append_stop hc, drop_takeWhile_append]
  split <;> rfl

/-- The colon before the port is the last one. -/
theorem rest_of_readPort {r : List Char} (hcs : cs ≠ [])
    (h : readPort (cs ++ ':' :: ds) = some (port, r)) : r ≠ [] := by
  cases cs with
  | nil => exact absurd rfl hcs
  | cons c cs =>
    have hnumber := readNumber_stopsAt (c := ':') (by decide) 65535 cs ds
    simp only [readPort, List.cons_append, readChar] at h
    split at h
    · cases hread : readNumber 65535 cs with
      | none => simp [hnumber, hread] at h
      | some p =>
        simp only [hnumber, hread, Option.map_some, bind, Option.bind_some, pure, Option.some.injEq,
          Prod.mk.injEq] at h
        rw [← h.2]
        simp
    · simp at h

/-- What stands before the colon of the port is an address as a whole. -/
theorem readV4_eq_none (h : ∀ x, readIpv4 cs ≠ some (x, [])) (ds : List Char) :
    readV4 (cs ++ ':' :: ds) = none := by
  have hjoined := readIpv4_stopsAt (c := ':') (by decide) (by decide) cs ds
  cases hread : readIpv4 cs with
  | none => simp [readV4, hjoined, hread]
  | some p =>
    obtain ⟨x, rest⟩ := p
    have hrest : rest ≠ [] := by
      rintro rfl
      exact h x hread
    cases hport : readPort (rest ++ ':' :: ds) with
    | none => simp [readV4, hjoined, hread, hport]
    | some q =>
      have hq : q.2 ≠ [] := rest_of_readPort hrest hport
      simp [readV4, hjoined, hread, hport, hq]

theorem readV4_of_readIpv4 (hx : readIpv4 cs = some (x, [])) (h : IsDecimal ds port.toNat) :
    readV4 (cs ++ ':' :: ds) = some ⟨.v4 x, 0, port⟩ := by
  have hread : readIpv4 (cs ++ ':' :: ds) = some (x, ':' :: ds) := by
    rw [readIpv4_stopsAt (by decide) (by decide) cs ds, hx]
    rfl
  simp [readV4, hread, readPort_of_decimal h]

theorem readV6_of_head? (h : cs.head? ≠ some '[') : readV6 cs = none := by
  cases cs with
  | nil => rfl
  | cons c r =>
    have hc : c ≠ '[' := by simpa using h
    simp [readV6, readChar, hc]

/-- An IPv4 address and a port are read from the two texts with a colon between them. -/
theorem read?_of_v4 (ha : IpAddress.read? cs = some (.v4 x)) (h : IsDecimal ds port.toNat) :
    read? (cs ++ ':' :: ds) = some ⟨.v4 x, 0, port⟩ := by
  rw [read?, readV4_of_readIpv4 (read?_eq_v4_iff.1 ha) h]

theorem read?_of_v6 (ha : IpAddress.read? cs = some (.v6 y)) (ds : List Char) :
    read? (cs ++ ':' :: ds) = none := by
  have hhead : (cs ++ ':' :: ds).head? ≠ some '[' := by
    intro hhead
    cases cs with
    | nil => simp at hhead
    | cons c r =>
      obtain rfl : c = '[' := by simpa using hhead
      rcases head?_of_read? ha '[' rfl with hdigit | hcolon
      · exact absurd hdigit (by decide)
      · exact absurd hcolon (by decide)
  rw [read?, readV4_eq_none (read?_eq_v6 ha).2]
  exact readV6_of_head? hhead

theorem read?_of_brackets (ha : IpAddress.read? cs = some (.v6 y)) (h : IsDecimal ds port.toNat) :
    read? ('[' :: cs ++ ']' :: ':' :: ds) = some ⟨.v6 y, 0, port⟩ := by
  have hv4 : readV4 ('[' :: (cs ++ ']' :: ':' :: ds)) = none := by
    simp [readV4, readIpv4_of_head (c := '[') (by decide)]
  have hread : readIpv6 (cs ++ ']' :: ':' :: ds) = some (y, ']' :: ':' :: ds) := by
    have hends : EndsIpv6 ']' := ⟨by decide, by decide, by decide⟩
    rw [readIpv6_stopsAt hends, (read?_eq_v6 ha).1]
    rfl
  rw [read?, List.cons_append, hv4]
  simp [readV6, readChar, hread, readZone, readPort_of_decimal h]

end SocketAddress

namespace CommandLine.Run

open Text

variable {environment : List (String × String)} {args : List String} {values given : Values}
  {access refresh address portText : String}

/-- The options that the line may leave out together with the address and the port. -/
def otherNames : List String :=
  ["access-token-mins", "refresh-token-mins", "renewal-threshold-mins", "db-file-path"]

/-- The values are the two keys, which are not empty, and nothing else. -/
structure GivesKeys (values : Values) (access refresh : String) : Prop where
  lookup_access : values.lookup "access-token-key" = some access
  access_ne : access ≠ ""
  lookup_refresh : values.lookup "refresh-token-key" = some refresh
  refresh_ne : refresh ≠ ""
  others : ∀ long ∈ "listen-address" :: "port" :: otherNames, values.lookup long = none

/-- An address and a port in front of a line. -/
def listenLine (address portText : String) (args : List String) : List String :=
  "--listen-address" :: address :: "--port" :: portText :: args

def withListen (given : Values) (address portText : String) : Values :=
  given ++ [("port", portText)] ++ [("listen-address", address)]

theorem lookup_withListen_of_some {long key : String} (hkey : given.lookup long = some key) :
    (withListen given address portText).lookup long = some key := by
  rw [withListen, List.lookup_append, List.lookup_append, hkey, Option.some_or, Option.some_or]

namespace GivesKeys

variable (hgiven : GivesKeys given access refresh)
include hgiven

theorem lookup_address :
    (withListen given address portText).lookup "listen-address" = some address := by
  rw [withListen, List.lookup_append, List.lookup_append, hgiven.others _ (by simp)]
  rfl

theorem lookup_port : (withListen given address portText).lookup "port" = some portText := by
  rw [withListen, List.lookup_append, List.lookup_append, hgiven.others _ (by simp)]
  rfl

theorem lookup_other {long : String} (hlong : long ∈ otherNames) :
    (withListen given address portText).lookup long = none := by
  have hother : long ≠ "port" ∧ long ≠ "listen-address" := by
    constructor <;> rintro rfl <;> simp [otherNames] at hlong
  rw [withListen, List.lookup_append, List.lookup_append, hgiven.others long (by simp [hlong]),
    lookup_single_of_ne hother.1, lookup_single_of_ne hother.2]
  rfl

/-- The address and the port can be given with any line that gives the keys. -/
theorem parse_listenLine (hparse : parse spec environment args = .ok given)
    (haddress : address.toList.head? ≠ some '-') (hport : portText.toList.head? ≠ some '-') :
    parse spec environment (listenLine address portText args) =
      .ok (withListen given address portText) := by
  have hlast : parse spec environment ("--port" :: portText :: args) =
      .ok (given ++ [("port", portText)]) :=
    parse_front (o := textOption "port" (some 'p')) rfl (by decide) (by decide) hport rfl (by decide)
      hparse (hgiven.others "port" (by simp))
  have hnone : (given ++ [("port", portText)]).lookup "listen-address" = none := by
    rw [List.lookup_append, hgiven.others _ (by simp), Option.none_or]
    exact lookup_single_of_ne (by decide)
  exact parse_front (o := textOption "listen-address" (some 'l')) rfl (by decide) (by decide) haddress
    rfl (by decide) hlast hnone

theorem policyOf_eq : policyOf (withListen given address portText) = Policy.standard := by
  have hminutes : ∀ long ∈ otherNames, ∀ standard,
      minutesOf (withListen given address portText) long standard = .ofMinutes standard := by
    intro long hlong standard
    rw [minutesOf, hgiven.lookup_other hlong]
    rfl
  rw [policyOf, hminutes _ (by simp [otherNames]), hminutes _ (by simp [otherNames]),
    hminutes _ (by simp [otherNames])]
  rfl

theorem ofTexts_eq : Keys.ofTexts access refresh =
    .ok ⟨⟨access, hgiven.access_ne⟩, ⟨refresh, hgiven.refresh_ne⟩⟩ := by
  simp only [Keys.ofTexts, SigningKey.ofText, dif_neg hgiven.access_ne, dif_neg hgiven.refresh_ne]

/-- What an address and a port come to, with all other options left out. -/
theorem configure_eq (address portText : String) : configure (withListen given address portText) =
    match SocketAddress.read? (address.toList ++ ':' :: portText.toList) with
    | none => .error .socketAddress
    | some listen => .ok ⟨listen, ⟨⟨⟨access, hgiven.access_ne⟩, ⟨refresh, hgiven.refresh_ne⟩⟩,
        Policy.standard⟩, defaultDatabase⟩ := by
  have hlisten : listen? (withListen given address portText) =
      SocketAddress.read? (address.toList ++ ':' :: portText.toList) := by
    rw [listen?, hgiven.lookup_address, hgiven.lookup_port]
    rfl
  have hdatabase : databaseOf (withListen given address portText) = defaultDatabase := by
    rw [databaseOf, hgiven.lookup_other (by simp [otherNames])]
    rfl
  have hthreshold : Policy.standard.renewalThreshold < Policy.standard.refreshLifetime := by decide
  unfold configure
  rw [hlisten, lookup_withListen_of_some hgiven.lookup_access, lookup_withListen_of_some hgiven.lookup_refresh,
    Option.getD_some, Option.getD_some, hgiven.ofTexts_eq, hgiven.policyOf_eq, hdatabase]
  cases SocketAddress.read? (address.toList ++ ':' :: portText.toList) with
  | none => rfl
  | some listen => exact if_pos hthreshold

end GivesKeys

/-- The line is accepted, and the service is to listen there. -/
def Listens (environment : List (String × String)) (args : List String) (s : SocketAddress) : Prop :=
  ∃ values c, parseCommand environment ("run" :: args) = .ok (.run values) ∧
    configure values = .ok c ∧ c.listen = s

/-- The options are in order, but the service is not started for this reason. -/
def FailsWith (environment : List (String × String)) (args : List String) (f : Failure) : Prop :=
  ∃ values, parseCommand environment ("run" :: args) = .ok (.run values) ∧
    configure values = .error f

theorem FailsWith.not_listens {f : Failure} (h : FailsWith environment args f) (s : SocketAddress) :
    ¬ Listens environment args s := by
  rintro ⟨values, c, hparse, hconfigure, -⟩
  obtain ⟨values', hparse', hfails⟩ := h
  rw [hparse, Except.ok.injEq, Command.run.injEq] at hparse'
  rw [← hparse', hconfigure] at hfails
  simp at hfails

namespace GivesKeys

variable {s : SocketAddress} (hgiven : GivesKeys given access refresh)
  (hparse : parse spec environment args = .ok given)
  (haddress : address.toList.head? ≠ some '-') (hport : portText.toList.head? ≠ some '-')
include hgiven hparse haddress hport

theorem parseCommand_listenLine :
    parseCommand environment ("run" :: listenLine address portText args) =
      .ok (.run (withListen given address portText)) := by
  rw [parseCommand, if_pos rfl, hgiven.parse_listenLine hparse haddress hport]
  rfl

theorem listens_of_read?
    (hread : SocketAddress.read? (address.toList ++ ':' :: portText.toList) = some s) :
    Listens environment (listenLine address portText args) s := by
  have hconfigure := hgiven.configure_eq address portText
  rw [hread] at hconfigure
  exact ⟨_, _, hgiven.parseCommand_listenLine hparse haddress hport, hconfigure, rfl⟩

theorem failsWith_of_read?
    (hread : SocketAddress.read? (address.toList ++ ':' :: portText.toList) = none) :
    FailsWith environment (listenLine address portText args) .socketAddress := by
  have hconfigure := hgiven.configure_eq address portText
  rw [hread] at hconfigure
  exact ⟨_, hgiven.parseCommand_listenLine hparse haddress hport, hconfigure⟩

end GivesKeys

/-- With any text of an address and any decimal number of a port, and the keys as the only other
options, the service listens there if and only if it is an IPv4 address. An IPv6 address is no socket
address with a port behind it, and has to be given between brackets. -/
theorem listens_iff_v4 (hparse : parse spec environment args = .ok given)
    (hgiven : GivesKeys given access refresh) (a : IpAddress) (port : UInt16) :
    IpAddress.read? a.render = some a ∧ IsDecimal (decimal port.toNat) port.toNat ∧
    ∀ address portText : String, IpAddress.read? address.toList = some a →
      IsDecimal portText.toList port.toNat →
      (Listens environment (listenLine address portText args) ⟨a, 0, port⟩ ↔ ∃ x, a = .v4 x) ∧
      ∀ y, a = .v6 y →
        FailsWith environment (listenLine address portText args) .socketAddress ∧
        Listens environment (listenLine ("[" ++ address ++ "]") portText args) ⟨a, 0, port⟩ := by
  refine ⟨IpAddress.read?_render a, isDecimal_decimal _, ?_⟩
  intro address portText ha hdecimal
  have hport : portText.toList.head? ≠ some '-' := hdecimal.head?_ne (by decide)
  have haddress : address.toList.head? ≠ some '-' := by
    intro hhead
    rcases IpAddress.head?_of_read? ha '-' hhead with hdigit | hcolon
    · exact absurd hdigit (by decide)
    · exact absurd hcolon (by decide)
  cases a with
  | v4 x =>
    have hread := SocketAddress.read?_of_v4 ha hdecimal
    have hlistens := hgiven.listens_of_read? hparse haddress hport hread
    exact ⟨iff_of_true hlistens ⟨x, rfl⟩, fun y hy => by simp at hy⟩
  | v6 y =>
    have hfails := hgiven.failsWith_of_read? hparse haddress hport
      (SocketAddress.read?_of_v6 ha portText.toList)
    refine ⟨iff_of_false (hfails.not_listens _) (by simp), fun z _ => ⟨hfails, ?_⟩⟩
    have hread := SocketAddress.read?_of_brackets ha hdecimal
    have hbrackets : ("[" ++ address ++ "]").toList = '[' :: address.toList ++ [']'] := by simp
    apply hgiven.listens_of_read? hparse _ hport
    · rw [hbrackets]
      simpa using hread
    · simp [hbrackets]

def sampleEnvironment : List (String × String) := [("ACCESS_TOKEN_KEY", "access")]

def sampleArguments : List String := ["--refresh-token-key=refresh"]

theorem parse_sampleArguments : ∃ given, parse spec sampleEnvironment sampleArguments = .ok given ∧
    GivesKeys given "access" "refresh" :=
  ⟨[("access-token-key", "access"), ("refresh-token-key", "refresh")], rfl,
    ⟨rfl, by decide, rfl, by decide, by decide⟩⟩

/-- An IPv4 address mapped into the range of IPv6. -/
def sampleMapped : Ipv6 := ⟨[0, 0, 0, 0, 0, 0xffff, 0xc000, 0x2ff], rfl⟩

/-- The last IPv4 port, and the first port at a mapped address, each in a text that is not the standard
one. -/
theorem listens_iff_v4_sample :
    Listens sampleEnvironment (listenLine "192.0.2.255" "065535" sampleArguments)
      ⟨.v4 ⟨192, 0, 2, 255⟩, 0, 65535⟩ ∧
    FailsWith sampleEnvironment (listenLine "::FFFF:C000:02ff" "0" sampleArguments) .socketAddress ∧
    Listens sampleEnvironment (listenLine "[::FFFF:C000:02ff]" "0" sampleArguments)
      ⟨.v6 sampleMapped, 0, 0⟩ := by
  obtain ⟨given, hparse, hgiven⟩ := parse_sampleArguments
  obtain ⟨-, -, hv4⟩ := listens_iff_v4 hparse hgiven (.v4 ⟨192, 0, 2, 255⟩) 65535
  obtain ⟨-, -, hv6⟩ := listens_iff_v4 hparse hgiven (.v6 sampleMapped) 0
  have hlast : IsDecimal "065535".toList 65535 := ⟨by decide, List.all_eq_true.1 rfl, by decide⟩
  have hfirst : IsDecimal "0".toList 0 := ⟨by decide, List.all_eq_true.1 rfl, by decide⟩
  obtain ⟨hlistens, -⟩ := hv4 "192.0.2.255" "065535" rfl hlast
  obtain ⟨-, hfails⟩ := hv6 "::FFFF:C000:02ff" "0" rfl hfirst
  exact ⟨hlistens.2 ⟨_, rfl⟩, hfails sampleMapped rfl⟩

/-- The standard text of the loopback address is refused. -/
theorem not_listens_of_loopback :
    ∃ y : Ipv6, (IpAddress.v6 y).render = "::1".toList ∧
      FailsWith [] ["--listen-address", "::1", "--port", "50051", "--access-token-key", "access",
        "--refresh-token-key", "refresh"] .socketAddress ∧
      ¬ Listens [] ["--listen-address", "::1", "--port", "50051", "--access-token-key", "access",
        "--refresh-token-key", "refresh"] ⟨.v6 y, 0, 50051⟩ := by
  have hfails : FailsWith [] ["--listen-address", "::1", "--port", "50051", "--access-token-key",
      "access", "--refresh-token-key", "refresh"] .socketAddress := ⟨_, rfl, rfl⟩
  refine ⟨⟨[0, 0, 0, 0, 0, 0, 0, 1], rfl⟩, ?_, hfails, hfails.not_listens _⟩
  simp [IpAddress.render, IpAddress.renderIpv6, IpAddress.longestZeroRun, IpAddress.zeroRun,
    IpAddress.renderGroups, hex, hexDigit]

end CommandLine.Run

end TokenAuth
