import OrdersContract.Address.Basic
import OrdersContract.Address.Domain
import OrdersContract.Address.HostCharacter
import OrdersContract.Address.HostExpansion
import OrdersContract.Address.HostImage
import OrdersContract.Address.Ipv4
import OrdersContract.Address.Ipv6
import OrdersContract.Address.Label
import OrdersContract.Address.Percent
import OrdersContract.Address.Punycode
import OrdersContract.Address.Query
import OrdersContract.Address.Read
import OrdersContract.Address.Segments
import OrdersContract.Contract.MajorUnits
import OrdersContract.Contract.MinorUnits
import OrdersContract.Contract.Orders
import OrdersContract.Contract.Preset
import OrdersContract.Document.Field
import OrdersContract.Document.Order
import OrdersContract.Document.Path
import OrdersContract.Document.Requirement
import OrdersContract.Document.Timestamp
import OrdersContract.Exchange.Basic
import OrdersContract.Exchange.Recording
import OrdersContract.Exchange.Terms
import OrdersContract.Json.Fault
import OrdersContract.Json.Read
import OrdersContract.Json.Token
import OrdersContract.Json.Value
import OrdersContract.Json.Written
import OrdersContract.Main
import OrdersContract.Number.Double
import OrdersContract.Number.Rounding
import OrdersContract.Number.Shortest
import OrdersContract.Proofs.AbsorbedGroups
import OrdersContract.Proofs.Acceptance
import OrdersContract.Proofs.AcceptedTimes
import OrdersContract.Proofs.Authorities
import OrdersContract.Proofs.BaseAddresses
import OrdersContract.Proofs.ChangedOrders
import OrdersContract.Proofs.Decimals
import OrdersContract.Proofs.DistinctLabels
import OrdersContract.Proofs.Edits
import OrdersContract.Proofs.Endpoints
import OrdersContract.Proofs.Exchanges
import OrdersContract.Proofs.Failures
import OrdersContract.Proofs.Fields
import OrdersContract.Proofs.FilledLabels
import OrdersContract.Proofs.FirstBreaks
import OrdersContract.Proofs.FormTexts
import OrdersContract.Proofs.GroupOutcomes
import OrdersContract.Proofs.InlineData
import OrdersContract.Proofs.IntegerOrder
import OrdersContract.Proofs.Interests
import OrdersContract.Proofs.JoinedAddresses
import OrdersContract.Proofs.LabelPatterns
import OrdersContract.Proofs.LabelSequences
import OrdersContract.Proofs.Labels
import OrdersContract.Proofs.LastLines
import OrdersContract.Proofs.LineCounts
import OrdersContract.Proofs.MajorFaults
import OrdersContract.Proofs.MajorUnits
import OrdersContract.Proofs.MinorFaults
import OrdersContract.Proofs.MinorUnits
import OrdersContract.Proofs.NumberFields
import OrdersContract.Proofs.NumberRequirements
import OrdersContract.Proofs.OrderOutcomes
import OrdersContract.Proofs.PageOrder
import OrdersContract.Proofs.PagedRules
import OrdersContract.Proofs.PathTexts
import OrdersContract.Proofs.PlacedOutcomes
import OrdersContract.Proofs.QueryTargets
import OrdersContract.Proofs.ReadNumbers
import OrdersContract.Proofs.ReadValues
import OrdersContract.Proofs.RearrangedOrders
import OrdersContract.Proofs.ReportSchema
import OrdersContract.Proofs.Rounding
import OrdersContract.Proofs.SeparateOrders
import OrdersContract.Proofs.Sessions
import OrdersContract.Proofs.SettingsDecisions
import OrdersContract.Proofs.SharedRules
import OrdersContract.Proofs.ShownFields
import OrdersContract.Proofs.ShownValues
import OrdersContract.Proofs.SingleLines
import OrdersContract.Proofs.SizeEcho
import OrdersContract.Proofs.Sorting
import OrdersContract.Proofs.SpelledTimes
import OrdersContract.Proofs.StatusFilter
import OrdersContract.Proofs.StoredReports
import OrdersContract.Proofs.Targets
import OrdersContract.Proofs.TextLines
import OrdersContract.Proofs.TextReports
import OrdersContract.Proofs.Trails
import OrdersContract.Proofs.Trees
import OrdersContract.Proofs.UnreadFields
import OrdersContract.Proofs.Verdicts
import OrdersContract.Proofs.Visits
import OrdersContract.Proofs.Walk
import OrdersContract.Proofs.WrittenTokens
import OrdersContract.Proofs.WrittenValues
import OrdersContract.Report.Outcome
import OrdersContract.Report.Rendered
import OrdersContract.Report.Session
import OrdersContract.Rule.Basic
import OrdersContract.Rule.Check
import OrdersContract.Rule.Description
import OrdersContract.Session.Basic
import OrdersContract.Settings
import OrdersContract.Text.Blank
import OrdersContract.Text.CodeRange
import OrdersContract.Text.CombiningClass
import OrdersContract.Text.Composed
import OrdersContract.Text.Composition
import OrdersContract.Text.Digits
import OrdersContract.Text.Fixed
import OrdersContract.Text.Joining
import OrdersContract.Text.Mark
import OrdersContract.Text.Pieces
import OrdersContract.Text.Printable
import OrdersContract.Text.Quoted
import OrdersContract.Text.Utf8
import OrdersContract.Text.WritingDirection
