import ClientGen.Template.Builtin.JavaScript

/-! The templates of TypeScript clients. -/

set_option autoImplicit false

namespace ClientGen.Template.Builtin

def typescriptClass : String := ofLines [
  "/* eslint-disable */",
  "/**",
  " * \x7b\x7b title \x7d\x7d",
  "\x7b% if version %\x7d",
  " * @version \x7b\x7b version \x7d\x7d",
  "\x7b% endif %\x7d",
  " */",
  "\x7b% for line in imports %\x7d",
  "\x7b\x7b line \x7d\x7d",
  "\x7b% endfor %\x7d",
  "\x7b% for definition in definitions %\x7d",
  "",
  "\x7b% include \"type\" %\x7d",
  "\x7b% endfor %\x7d",
  "",
  "export interface AuthValue \x7b",
  "    value?: string;",
  "    headerOrQueryName?: string;",
  "    isQuery?: boolean;",
  "\x7d",
  "",
  "export interface BasicAuth \x7b",
  "    username?: string;",
  "    password?: string;",
  "\x7d",
  "",
  "export interface \x7b\x7b class_name \x7d\x7dOptions \x7b",
  "    domain?: string;",
  "\x7b% if is_secure_token %\x7d",
  "    token?: AuthValue;",
  "\x7b% endif %\x7d",
  "\x7b% if is_secure_api_key %\x7d",
  "    apiKey?: AuthValue;",
  "\x7b% endif %\x7d",
  "\x7b% if is_secure_basic %\x7d",
  "    basic?: BasicAuth;",
  "\x7b% endif %\x7d",
  "\x7d",
  "",
  "type Dictionary = \x7b [key: string]: any \x7d;",
  "",
  "/**",
  " * \x7b\x7b title \x7d\x7d client",
  " */",
  "export class \x7b\x7b class_name \x7d\x7d \x7b",
  "    private domain: string;",
  "\x7b% if is_secure_token %\x7d",
  "    private token: AuthValue;",
  "\x7b% endif %\x7d",
  "\x7b% if is_secure_api_key %\x7d",
  "    private apiKey: AuthValue;",
  "\x7b% endif %\x7d",
  "\x7b% if is_secure_basic %\x7d",
  "    private basic: BasicAuth;",
  "\x7b% endif %\x7d",
  "",
  "    constructor(domainOrOptions?: string | \x7b\x7b class_name \x7d\x7dOptions) \x7b",
  "        const options: \x7b\x7b class_name \x7d\x7dOptions = typeof domainOrOptions === 'object' ? domainOrOptions : \x7b\x7d;",
  "        const domain = typeof domainOrOptions === 'string' ? domainOrOptions : options.domain;",
  "        this.domain = domain ? domain : \x7b\x7b domain | tojson \x7d\x7d;",
  "        if (this.domain.length === 0) \x7b",
  "            throw new Error('Domain parameter must be specified as a string.');",
  "        \x7d",
  "\x7b% if is_secure_token %\x7d",
  "        this.token = options.token || \x7b\x7d;",
  "\x7b% endif %\x7d",
  "\x7b% if is_secure_api_key %\x7d",
  "        this.apiKey = options.apiKey || \x7b\x7d;",
  "\x7b% endif %\x7d",
  "\x7b% if is_secure_basic %\x7d",
  "        this.basic = options.basic || \x7b\x7d;",
  "\x7b% endif %\x7d",
  "    \x7d",
  "",
  "    private request(method: string, url: string, body: any, headers: Dictionary, queryParameters: Dictionary, form: Dictionary): Promise<any> \x7b",
  "        const query = new URLSearchParams();",
  "        Object.keys(queryParameters).forEach((key) => \x7b",
  "            const value = queryParameters[key];",
  "            if (Array.isArray(value)) \x7b",
  "                value.forEach((item) => query.append(key, String(item)));",
  "            \x7d else \x7b",
  "                query.append(key, String(value));",
  "            \x7d",
  "        \x7d);",
  "        const queryString = query.toString();",
  "        const init: RequestInit = \x7b method, headers \x7d;",
  "        if (Object.keys(form).length > 0) \x7b",
  "            init.body = new URLSearchParams(form);",
  "        \x7d else if (body !== undefined) \x7b",
  "            init.body = JSON.stringify(body);",
  "        \x7d",
  "        return fetch(queryString ? `$\x7burl\x7d?$\x7bqueryString\x7d` : url, init).then((response) => \x7b",
  "            if (!response.ok) \x7b",
  "                const error: any = new Error(`Request failed with status $\x7bresponse.status\x7d`);",
  "                error.response = response;",
  "                throw error;",
  "            \x7d",
  "            const contentType = response.headers.get('Content-Type') || '';",
  "            return contentType.indexOf('json') !== -1 ? response.json() : response.text();",
  "        \x7d);",
  "    \x7d",
  "\x7b% if is_secure_token %\x7d",
  "",
  "    setToken(value: string, headerOrQueryName?: string, isQuery?: boolean): void \x7b",
  "        this.token = \x7b value, headerOrQueryName, isQuery \x7d;",
  "    \x7d",
  "\x7b% endif %\x7d",
  "\x7b% if is_secure_api_key %\x7d",
  "",
  "    setApiKey(value: string, headerOrQueryName: string, isQuery?: boolean): void \x7b",
  "        this.apiKey = \x7b value, headerOrQueryName, isQuery \x7d;",
  "    \x7d",
  "\x7b% endif %\x7d",
  "\x7b% if is_secure_basic %\x7d",
  "",
  "    setBasicAuth(username: string, password: string): void \x7b",
  "        this.basic = \x7b username, password \x7d;",
  "    \x7d",
  "\x7b% endif %\x7d",
  "\x7b% if is_secure %\x7d",
  "",
  "    private setAuthHeaders(headers: Dictionary, queryParameters: Dictionary): Dictionary \x7b",
  "\x7b% if is_secure_token %\x7d",
  "        if (this.token.value) \x7b",
  "            if (this.token.isQuery && this.token.headerOrQueryName) \x7b",
  "                queryParameters[this.token.headerOrQueryName] = this.token.value;",
  "            \x7d else if (this.token.headerOrQueryName) \x7b",
  "                headers[this.token.headerOrQueryName] = this.token.value;",
  "            \x7d else \x7b",
  "                headers['Authorization'] = `Bearer $\x7bthis.token.value\x7d`;",
  "            \x7d",
  "        \x7d",
  "\x7b% endif %\x7d",
  "\x7b% if is_secure_api_key %\x7d",
  "        if (this.apiKey.value && this.apiKey.headerOrQueryName) \x7b",
  "            if (this.apiKey.isQuery) \x7b",
  "                queryParameters[this.apiKey.headerOrQueryName] = this.apiKey.value;",
  "            \x7d else \x7b",
  "                headers[this.apiKey.headerOrQueryName] = this.apiKey.value;",
  "            \x7d",
  "        \x7d",
  "\x7b% endif %\x7d",
  "\x7b% if is_secure_basic %\x7d",
  "        if (this.basic.username && this.basic.password) \x7b",
  "            headers['Authorization'] = `Basic $\x7bbtoa(`$\x7bthis.basic.username\x7d:$\x7bthis.basic.password\x7d`)\x7d`;",
  "        \x7d",
  "\x7b% endif %\x7d",
  "        return headers;",
  "    \x7d",
  "\x7b% endif %\x7d",
  "\x7b% for method in methods %\x7d",
  "",
  "\x7b% include \"method\" %\x7d",
  "\x7b% endfor %\x7d",
  "\x7d",
  "\x7b% if module_name %\x7d",
  "",
  "export default \x7b\x7b class_name \x7d\x7d;",
  "\x7b% endif %\x7d"]

def typescriptMethod : String := ofLines [
  "    /**",
  "     * \x7b\x7b method.summary or method.method_name \x7d\x7d",
  "\x7b% for parameter in method.parameters %\x7d",
  "     * @param \x7b\x7b parameter.camel_case_name \x7d\x7d\x7b% if parameter.description %\x7d - \x7b\x7b parameter.description \x7d\x7d\x7b% endif %\x7d",
  "",
  "\x7b% endfor %\x7d",
  "\x7b% if method.response_description %\x7d",
  "     * @returns \x7b\x7b method.response_description \x7d\x7d",
  "\x7b% endif %\x7d",
  "     */",
  "    \x7b\x7b method.method_name \x7d\x7d(parameters: \x7b",
  "\x7b% for parameter in method.parameters %\x7d",
  "        \x7b\x7b parameter.camel_case_name \x7d\x7d\x7b\x7b parameter.cardinality \x7d\x7d: \x7b\x7b parameter.ts_type \x7d\x7d;",
  "\x7b% endfor %\x7d",
  "        [key: string]: any;",
  "    \x7d\x7b% if not method.has_required_parameters %\x7d = \x7b\x7d\x7b% endif %\x7d): Promise<\x7b\x7b method.method_ts_type or 'any' \x7d\x7d> \x7b",
  "        let path = \x7b\x7b method.path | tojson \x7d\x7d;",
  "        let body: any;",
  "        const queryParameters: Dictionary = \x7b\x7d;",
  "        const headers: Dictionary = \x7b\x7d;",
  "        const form: Dictionary = \x7b\x7d;",
  "\x7b% for header in method.headers %\x7d",
  "        headers[\x7b\x7b header.name | tojson \x7d\x7d] = \x7b\x7b header.value \x7d\x7d;",
  "\x7b% endfor %\x7d",
  "\x7b% if method.is_secure and is_secure %\x7d",
  "        this.setAuthHeaders(headers, queryParameters);",
  "\x7b% endif %\x7d",
  "\x7b% for parameter in method.parameters %\x7d",
  "\x7b% set key = parameter.camel_case_name | tojson %\x7d",
  "\x7b% if parameter.is_singleton %\x7d",
  "        parameters[\x7b\x7b key \x7d\x7d] = \x7b\x7b parameter.singleton | tojson \x7d\x7d;",
  "\x7b% endif %\x7d",
  "\x7b% if parameter.required %\x7d",
  "        if (parameters[\x7b\x7b key \x7d\x7d] === undefined) \x7b",
  "            return Promise.reject(new Error(\x7b\x7b ('Missing required ' ~ parameter.location.value ~ ' parameter: ' ~ parameter.camel_case_name) | tojson \x7d\x7d));",
  "        \x7d",
  "\x7b% endif %\x7d",
  "\x7b% if parameter.is_body_parameter %\x7d",
  "        if (parameters[\x7b\x7b key \x7d\x7d] !== undefined) \x7b",
  "            body = parameters[\x7b\x7b key \x7d\x7d];",
  "        \x7d",
  "\x7b% elif parameter.is_path_parameter %\x7d",
  "        path = path.replace(\x7b\x7b ('\x7b' ~ parameter.name ~ '\x7d') | tojson \x7d\x7d, encodeURIComponent(String(parameters[\x7b\x7b key \x7d\x7d])));",
  "\x7b% elif parameter.is_query_parameter %\x7d",
  "\x7b% if parameter.is_pattern_type %\x7d",
  "        Object.keys(parameters).forEach((parameterName) => \x7b",
  "            if (new RegExp(\x7b\x7b parameter.pattern | tojson \x7d\x7d).test(parameterName)) \x7b",
  "                queryParameters[parameterName] = parameters[parameterName];",
  "            \x7d",
  "        \x7d);",
  "\x7b% else %\x7d",
  "        if (parameters[\x7b\x7b key \x7d\x7d] !== undefined) \x7b",
  "            queryParameters[\x7b\x7b parameter.name | tojson \x7d\x7d] = parameters[\x7b\x7b key \x7d\x7d];",
  "        \x7d",
  "\x7b% endif %\x7d",
  "\x7b% elif parameter.is_header_parameter %\x7d",
  "        if (parameters[\x7b\x7b key \x7d\x7d] !== undefined) \x7b",
  "            headers[\x7b\x7b parameter.name | tojson \x7d\x7d] = parameters[\x7b\x7b key \x7d\x7d];",
  "        \x7d",
  "\x7b% elif parameter.is_form_parameter %\x7d",
  "        if (parameters[\x7b\x7b key \x7d\x7d] !== undefined) \x7b",
  "            form[\x7b\x7b parameter.name | tojson \x7d\x7d] = parameters[\x7b\x7b key \x7d\x7d];",
  "        \x7d",
  "\x7b% endif %\x7d",
  "\x7b% endfor %\x7d",
  "        return this.request(\x7b\x7b method.http_verb | tojson \x7d\x7d, this.domain + path, body, headers, queryParameters, form);",
  "    \x7d"]

def type : String := ofLines [
  "\x7b% if definition.description %\x7d",
  "/**",
  " * \x7b\x7b definition.description \x7d\x7d",
  " */",
  "\x7b% endif %\x7d",
  "export type \x7b\x7b definition.name \x7d\x7d = \x7b\x7b definition.ts_type \x7d\x7d;"]

end ClientGen.Template.Builtin
