import TokenAuth.Binary64
import TokenAuth.Calendar
import TokenAuth.Cbor
import TokenAuth.Claims
import TokenAuth.ClaimsFormat
import TokenAuth.CommandLine.Commands
import TokenAuth.CommandLine.Grammar
import TokenAuth.CommandLine.Workspace
import TokenAuth.Compact
import TokenAuth.Content
import TokenAuth.Content.Record
import TokenAuth.Crypto.Argon2
import TokenAuth.Crypto.Argon2.Block
import TokenAuth.Crypto.Blake2b
import TokenAuth.Crypto.Hmac
import TokenAuth.Crypto.Sha256
import TokenAuth.Crypto.Words
import TokenAuth.Domain.CodePointTable
import TokenAuth.Domain.DecompositionTable
import TokenAuth.Domain.Direction
import TokenAuth.Domain.DirectionTable
import TokenAuth.Domain.MappingTable
import TokenAuth.Domain.MarkTable
import TokenAuth.Domain.Name
import TokenAuth.Domain.Normal
import TokenAuth.Domain.Punycode
import TokenAuth.Duration
import TokenAuth.Email
import TokenAuth.FieldError
import TokenAuth.Identity
import TokenAuth.Instant
import TokenAuth.IpAddress
import TokenAuth.Issuer
import TokenAuth.Json.Content
import TokenAuth.Json.Fault
import TokenAuth.Json.Number
import TokenAuth.Json.Quoted
import TokenAuth.Json.Record
import TokenAuth.Json.Series
import TokenAuth.Json.Writer
import TokenAuth.Main
import TokenAuth.NewUser
import TokenAuth.Password
import TokenAuth.PasswordHash
import TokenAuth.Proofs.AddressText
import TokenAuth.Proofs.AuditSubjects
import TokenAuth.Proofs.Base64Text
import TokenAuth.Proofs.BasicHeaders
import TokenAuth.Proofs.BoundedUse
import TokenAuth.Proofs.CalendarDates
import TokenAuth.Proofs.ClaimsText
import TokenAuth.Proofs.CommandLines
import TokenAuth.Proofs.ExpirySums
import TokenAuth.Proofs.FailedLogins
import TokenAuth.Proofs.FrontOptions
import TokenAuth.Proofs.GateVerdicts
import TokenAuth.Proofs.Handouts
import TokenAuth.Proofs.HeaderText
import TokenAuth.Proofs.InstantText
import TokenAuth.Proofs.JsonForms
import TokenAuth.Proofs.JsonObjects
import TokenAuth.Proofs.JsonTails
import TokenAuth.Proofs.JsonValues
import TokenAuth.Proofs.KeySeparation
import TokenAuth.Proofs.KindIsolation
import TokenAuth.Proofs.Lifetimes
import TokenAuth.Proofs.ListenAddresses
import TokenAuth.Proofs.Logins
import TokenAuth.Proofs.PasswordText
import TokenAuth.Proofs.ProgramRuns
import TokenAuth.Proofs.RecognisedRows
import TokenAuth.Proofs.Renewals
import TokenAuth.Proofs.ServerRuns
import TokenAuth.Proofs.Sessions
import TokenAuth.Proofs.SignatureTexts
import TokenAuth.Proofs.Startup
import TokenAuth.Proofs.TableHistory
import TokenAuth.Proofs.TokenReadings
import TokenAuth.Proofs.TokenRoundTrip
import TokenAuth.Proofs.TokenTransport
import TokenAuth.Proofs.TokenVerdicts
import TokenAuth.Proofs.TokensText
import TokenAuth.Proofs.UserRows
import TokenAuth.Proofs.Validity
import TokenAuth.Rfc3339
import TokenAuth.Service.Headers
import TokenAuth.Service.Message
import TokenAuth.Service.Refusal
import TokenAuth.Service.Response
import TokenAuth.Service.Run
import TokenAuth.Service.Server
import TokenAuth.SignedToken
import TokenAuth.Text.Base64
import TokenAuth.Text.Blank
import TokenAuth.Text.Cut
import TokenAuth.Text.Decimal
import TokenAuth.Text.Hex
import TokenAuth.Text.Utf8
import TokenAuth.TokenError
import TokenAuth.TokenHeader
import TokenAuth.TokenKind
import TokenAuth.Tokens
import TokenAuth.UserTable
import TokenAuth.UserTable.Written
import TokenAuth.Username
