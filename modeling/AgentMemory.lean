import AgentMemory.Foundation.Acyclic
import AgentMemory.Foundation.Catalog
import AgentMemory.Foundation.FileTree
import AgentMemory.Foundation.Latest
import AgentMemory.Foundation.Locks
import AgentMemory.Foundation.Log
import AgentMemory.Foundation.Machine
import AgentMemory.Foundation.Narrowing
import AgentMemory.Foundation.Once
import AgentMemory.Foundation.Outline
import AgentMemory.Foundation.Pool
import AgentMemory.Foundation.Program
import AgentMemory.Foundation.Replay
import AgentMemory.Foundation.Scan
import AgentMemory.Foundation.Selection
import AgentMemory.Foundation.Table
import AgentMemory.Foundation.Transaction
import AgentMemory.Foundation.Wildcard
import AgentMemory.Foundation.Window
import AgentMemory.Foundation.Words
import AgentMemory.Model.Client
import AgentMemory.Model.Codec
import AgentMemory.Model.Consolidation
import AgentMemory.Model.Context
import AgentMemory.Model.Database
import AgentMemory.Model.Diagnostics
import AgentMemory.Model.Fts5
import AgentMemory.Model.Http
import AgentMemory.Model.HttpRoutes
import AgentMemory.Model.Json
import AgentMemory.Model.JsonParser
import AgentMemory.Model.Like
import AgentMemory.Model.Mcp
import AgentMemory.Model.Payload
import AgentMemory.Model.Runtime
import AgentMemory.Model.Schema
import AgentMemory.Model.Search
import AgentMemory.Model.ServerMain
import AgentMemory.Model.ServerOptions
import AgentMemory.Model.Service
import AgentMemory.Model.Store
import AgentMemory.Model.Text
import AgentMemory.Model.Types
import AgentMemory.Verification.Consolidation.Atomicity
import AgentMemory.Verification.Consolidation.Builder
import AgentMemory.Verification.Consolidation.Confidence
import AgentMemory.Verification.Consolidation.Degradation
import AgentMemory.Verification.Consolidation.Exchange
import AgentMemory.Verification.Consolidation.Filters
import AgentMemory.Verification.Consolidation.ModelText
import AgentMemory.Verification.Consolidation.Rules
import AgentMemory.Verification.Consolidation.Specification
import AgentMemory.Verification.Consolidation.Writer
import AgentMemory.Verification.Context.Citations
import AgentMemory.Verification.Context.Matching
import AgentMemory.Verification.Context.Messages
import AgentMemory.Verification.Context.Payloads
import AgentMemory.Verification.Context.Records
import AgentMemory.Verification.Context.Sections
import AgentMemory.Verification.Context.Wire
import AgentMemory.Verification.Entities.GeneratedIds
import AgentMemory.Verification.Entities.Replay
import AgentMemory.Verification.Entities.Rows
import AgentMemory.Verification.Entities.Supersession
import AgentMemory.Verification.Entities.Uniqueness
import AgentMemory.Verification.Isolation.Agents
import AgentMemory.Verification.Isolation.Views
import AgentMemory.Verification.Mcp.Correlation
import AgentMemory.Verification.Payloads.Compensation
import AgentMemory.Verification.Payloads.Confinement
import AgentMemory.Verification.Payloads.Integrity
import AgentMemory.Verification.Payloads.Names
import AgentMemory.Verification.Payloads.Rows
import AgentMemory.Verification.Payloads.Runs
import AgentMemory.Verification.Payloads.Threshold
import AgentMemory.Verification.Relations.Snapshot
import AgentMemory.Verification.Relations.Uniqueness
import AgentMemory.Verification.Runtime.Calls
import AgentMemory.Verification.Runtime.ExactlyOnce
import AgentMemory.Verification.Runtime.Exclusion
import AgentMemory.Verification.Runtime.Monotone
import AgentMemory.Verification.Schema.Initialization
import AgentMemory.Verification.Schema.Migration
import AgentMemory.Verification.Search.Characters
import AgentMemory.Verification.Search.Escaping
import AgentMemory.Verification.Search.Fallback
import AgentMemory.Verification.Search.Like
import AgentMemory.Verification.Search.Queries
import AgentMemory.Verification.Search.Ranking
import AgentMemory.Verification.Search.TermQueries
import AgentMemory.Verification.Search.Terms
import AgentMemory.Verification.SearchIndex.Consistency
import AgentMemory.Verification.Serialization.Codec
import AgentMemory.Verification.Serialization.Columns
import AgentMemory.Verification.Serialization.Diagnostics
import AgentMemory.Verification.Serialization.Dump
import AgentMemory.Verification.Serialization.Fields
import AgentMemory.Verification.Serialization.Integers
import AgentMemory.Verification.Serialization.Lexer
import AgentMemory.Verification.Serialization.Parser
import AgentMemory.Verification.Serialization.Utf8
import AgentMemory.Verification.Server.Answers
import AgentMemory.Verification.Server.Auth
import AgentMemory.Verification.Server.CommandLine
import AgentMemory.Verification.Server.Fronts
import AgentMemory.Verification.Server.Options
import AgentMemory.Verification.Server.Routes
import AgentMemory.Verification.Server.Wire
import AgentMemory.Verification.Service.Alone
import AgentMemory.Verification.Service.Consolidations
import AgentMemory.Verification.Service.Effects
import AgentMemory.Verification.Service.Events
import AgentMemory.Verification.Service.ReadBack
import AgentMemory.Verification.Service.Reads
import AgentMemory.Verification.Service.Requests
import AgentMemory.Verification.Service.Stats
import AgentMemory.Verification.Store.Cursors
import AgentMemory.Verification.Store.Events
import AgentMemory.Verification.Store.Frame
import AgentMemory.Verification.Store.Lossless
import AgentMemory.Verification.Store.Statements
import AgentMemory.Verification.Transactions.AllOrNothing
import AgentMemory.Verification.Transactions.Atomicity
import AgentMemory.Verification.Transactions.DirectSaves
import AgentMemory.Verification.Transactions.Operations
import AgentMemory.Verification.Transactions.Runs
