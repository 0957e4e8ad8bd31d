import AdminConsole.Model.Data

/-!
# Sample data

The data that the console starts with. Identifiers are fixed numbers, one range for each section,
and all times are counted back from one fixed day.
-/

namespace AdminConsole.Sample

/-! ## Identifiers -/

/-- The identifier of the member of a number. -/
def memberId (n : Nat) : Uuid := .ofNat (0x10000000 + n)

/-- The identifier of the report of a number. -/
def reportId (n : Nat) : Uuid := .ofNat (0x20000000 + n)

/-- The identifier of the payment of a number. -/
def paymentId (n : Nat) : Uuid := .ofNat (0x30000000 + n)

/-- The identifier of the campaign of a number. -/
def campaignId (n : Nat) : Uuid := .ofNat (0x40000000 + n)

/-- The identifier of the operator of a number. -/
def operatorId (n : Nat) : Uuid := .ofNat (0x50000000 + n)

/-! ## Times -/

/-- The day from which times are counted back, 2024-06-01. -/
def today : Int := 19875

/-- Midnight a number of days before. -/
def daysAgo (days : Int) : Instant := Instant.ofDays (today - days)

/-! ## Sections -/

/-- A small letter for each letter and a dot for each blank and apostrophe. -/
def handle (name : String) : String :=
  name.map fun c => if c == ' ' || c.toNat = 0x27 then '.' else c.toLower

/-- The member of a number. A reason makes it a banned one. -/
def member (n : Nat) (name city : String) (age : UInt8) (verified premium : Bool)
    (reports : UInt32) (banReason : Option String) : Member where
  id := memberId n
  displayName := name
  email := handle name ++ "@example.com"
  age := age
  city := city
  status := if banReason.isSome then .banned else .active
  verified := verified
  premium := premium
  reportsReceived := reports
  banReason := banReason
  joinedAt := daysAgo (400 - 25 * n)
  lastActiveAt := daysAgo (n % 5 : Nat)

/-- The members. -/
def members : List Member :=
  [member 1 "Ava Martinez" "Austin" 27 true true 0 none,
    member 2 "Noah Kim" "Seattle" 31 true false 1 none,
    member 3 "Mia Johnson" "Chicago" 24 false false 0 none,
    member 4 "Liam O'Brien" "Boston" 35 true true 0 none,
    member 5 "Zoe Chen" "San Francisco" 29 true true 0 none,
    member 6 "Ethan Brooks" "Denver" 33 false false 4 none,
    member 7 "Isla Novak" "Portland" 26 true false 0 none,
    member 8 "Lucas Silva" "Miami" 30 false false 6 (some "Repeated harassment reports"),
    member 9 "Amara Okafor" "Atlanta" 28 true true 0 none,
    member 10 "Jonas Weber" "New York" 38 false false 2 none,
    member 11 "Priya Raman" "Houston" 25 true false 0 none,
    member 12 "Caleb Turner" "Phoenix" 22 false false 3 none]

/-- The report of a number about one member by another, made some days ago. -/
def report (n reported reporter : Nat) (category : ReportCategory) (details : String)
    (age : Int) : Report where
  id := reportId n
  reportedMember := memberId reported
  reporter := memberId reporter
  category := category
  details := details
  status := .opened
  contentRemoved := false
  createdAt := daysAgo age
  handledBy := none
  resolutionNote := none

/-- The reports; the last one is closed. -/
def reports : List Report :=
  [report 1 6 3 .harassment "Sent abusive messages after unmatch" 1,
    report 2 10 7 .fakeProfile "Photos appear to be a celebrity" 2,
    report 3 12 11 .spam "Links to an external site in every chat" 2,
    report 4 6 9 .inappropriatePhotos "Explicit photo in profile gallery" 3,
    report 5 12 1 .scam "Asked for gift cards" 4,
    { report 6 8 5 .harassment "Threatening messages" 12 with
      status := .resolved
      contentRemoved := true
      handledBy := some (operatorId 3)
      resolutionNote := some "Member banned" }]

/-- The settled payment of a number, made by a member some days ago. -/
def payment (n member : Nat) (product : Product) (amount : Int64) (age : Int) : Payment where
  id := paymentId n
  member := memberId member
  product := product
  amount := amount
  currency := "USD"
  status := .settled
  createdAt := daysAgo age
  refundedAt := none
  refundReason := none

/-- The payments; the seventh is refunded. -/
def payments : List Payment :=
  [payment 1 1 .premiumMonthly 1999 3,
    payment 2 4 .premiumYearly 11999 8,
    payment 3 5 .boost 499 1,
    payment 4 9 .premiumMonthly 1999 15,
    payment 5 2 .superLikes 899 6,
    payment 6 7 .boost 499 2,
    { payment 7 5 .premiumMonthly 1999 33 with
      status := .refunded
      refundedAt := some (daysAgo 30)
      refundReason := some "Duplicate charge" },
    payment 8 11 .superLikes 899 20]

/-- The campaigns. -/
def campaigns : List Campaign :=
  [⟨campaignId 1, "Summer Love", "discover_feed", .active, 182400, 4210, 388, 612000⟩,
    ⟨campaignId 2, "Premium Week", "match_screen", .active, 96300, 2870, 415, 344500⟩,
    ⟨campaignId 3, "City Singles Austin", "discover_feed", .paused, 41200, 610, 37, 98000⟩,
    ⟨campaignId 4, "Boost Bundle", "profile_banner", .active, 120800, 1940, 260, 205300⟩,
    ⟨campaignId 5, "Win-back Lapsed", "push", .paused, 15000, 0, 0, 0⟩]

/-- The operators. -/
def team : List TeamMember :=
  [⟨operatorId 1, "Dana Whitfield", "dana@heartline.app", .owner, some (daysAgo 0)⟩,
    ⟨operatorId 2, "Marcus Lee", "marcus@heartline.app", .admin, some (daysAgo 1)⟩,
    ⟨operatorId 3, "Sofia Alvarez", "sofia@heartline.app", .moderator, some (daysAgo 0)⟩,
    ⟨operatorId 4, "Tom Becker", "tom@heartline.app", .moderator, some (daysAgo 3)⟩,
    ⟨operatorId 5, "Hana Sato", "hana@heartline.app", .support, some (daysAgo 2)⟩,
    ⟨operatorId 6, "Riley Brooks", "riley@heartline.app", .adManager, none⟩]

/-- The counts of active users of fourteen days. -/
def activeUsers : List UInt32 :=
  [41200, 42050, 40870, 43300, 45900, 48200, 47650, 43900, 44120, 43480, 45010, 47800, 50240, 49930]

/-- The counts of the day of a number, from zero, with a count of active users. -/
def engagementDay (users : UInt32) (n : Nat) : EngagementDay where
  date := Date.ofDays (today - 13 + n)
  activeUsers := users
  newSignups := 1150 + UInt32.ofNat (37 * n % 260)
  matched := users / 6
  messagesSent := users * 9 + UInt32.ofNat (113 * n)

/-- The engagement of fourteen days. -/
def engagement : List EngagementDay :=
  activeUsers.zipIdx.map fun (users, n) => engagementDay users n

/-- The revenue of six months. -/
def revenue : List RevenueMonth :=
  [⟨"2023-12", 18420000, 2110000, 940000⟩,
    ⟨"2024-01", 19050000, 2340000, 1020000⟩,
    ⟨"2024-02", 19880000, 2580000, 1010000⟩,
    ⟨"2024-03", 20610000, 2460000, 1150000⟩,
    ⟨"2024-04", 21330000, 2790000, 1240000⟩,
    ⟨"2024-05", 22470000, 3050000, 1310000⟩]

/-- All sections. -/
def data : Data where
  members := members
  reports := reports
  payments := payments
  campaigns := campaigns
  team := team
  settings := .standard
  engagement := engagement
  revenue := revenue

end AdminConsole.Sample
