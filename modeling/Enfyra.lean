import Enfyra.Value
import Enfyra.Metadata
import Enfyra.Db
import Enfyra.Knex.Transform
import Enfyra.Knex.Junction
import Enfyra.Knex.Hooks
import Enfyra.Knex.Update
import Enfyra.Query.Where
import Enfyra.Query.Mutation
import Enfyra.Query.Options
import Enfyra.Registry.Cascade
import Enfyra.Query.Executor
import Enfyra.Query.MongoExecutor
import Enfyra.Core.InitMetadata
import Enfyra.Core.InitRelations
import Enfyra.Core.InitColumns
import Enfyra.Knex.ColumnOperations
import Enfyra.Graphql.DynamicResolver
import Enfyra.Knex.Select
import Enfyra.Query.FindWhere
import Enfyra.Query.ExpandFields
import Enfyra.Query.SelectLegacy
import Enfyra.Bootstrap.MenuDefinition
import Enfyra.Graphql.Resolvers
import Enfyra.Knex.SchemaIntrospection
import Enfyra.Knex.TableSchema
import Enfyra.Query.Service
import Enfyra.Bootstrap.RouteDefinition
import Enfyra.Knex.HookTable
import Enfyra.Knex.Timestamps
